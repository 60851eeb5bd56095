import GraphLens.Json.Value

namespace GraphLens.Json

def escapeChar (c : Char) : List Char :=
  match c with
  | '"' => ['\\', '"']
  | '\\' => ['\\', '\\']
  | '\x08' => ['\\', 'b']
  | '\x0c' => ['\\', 'f']
  | '\n' => ['\\', 'n']
  | '\r' => ['\\', 'r']
  | '\t' => ['\\', 't']
  | c =>
    if c.toNat < 0x20 then
      ['\\', 'u', '0', '0', Nat.digitChar (c.toNat / 16), Nat.digitChar (c.toNat % 16)]
    else [c]

def writeText (s : String) : String :=
  String.ofList ('"' :: s.toList.flatMap escapeChar ++ ['"'])

def writeList (items : List String) : String := "[" ++ String.intercalate "," items ++ "]"

def writeObject (members : List (String × String)) : String :=
  let written := members.map fun (name, value) => writeText name ++ ":" ++ value
  "\x7b" ++ String.intercalate "," written ++ "\x7d"

mutual

def Value.render : Value → String
  | .null => "null"
  | .bool b => if b then "true" else "false"
  | .number n => n.render
  | .text s => writeText s
  | .array items => writeList (renderItems items)
  | .object members => writeObject (renderMembers members)

def renderItems : List Value → List String
  | [] => []
  | v :: items => v.render :: renderItems items

def renderMembers : List (String × Value) → List (String × String)
  | [] => []
  | (name, v) :: members => (name, v.render) :: renderMembers members

end

end GraphLens.Json
