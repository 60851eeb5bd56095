import GraphLens.Json.Value
import GraphLens.Json.Writer
import GraphLens.Pointer.Modifiers
import GraphLens.Text.Blank

namespace GraphLens.Modifiers

inductive FlagError where
  | emptyFlag
  | unknownName
  | invalidHex

def FlagError.message : FlagError → String
  | .emptyFlag => "encountered empty flag"
  | .unknownName => "unrecognized named flag"
  | .invalidHex => "invalid hex flag"

def hexBits? (s : List Char) : Option UInt8 := do
  let digits := (['+'].isPrefixOf? s).getD s
  if digits.isEmpty then none
  let n ← Json.Reader.hexNumber? digits
  if n < 256 then some n.toUInt8 else none

def ofFlag (flag : List Char) : Except FlagError Modifiers :=
  if flag.isEmpty then .error .emptyFlag
  else
    match ['0', 'x'].isPrefixOf? flag with
    | some digits =>
      match hexBits? digits with
      | some bits => .ok ⟨bits⟩
      | none => .error .invalidHex
    | none =>
      match named.lookup (String.ofList flag) with
      | some key => .ok key
      | none => .error .unknownName

def ofText (s : String) : Except FlagError Modifiers :=
  if (Text.trim s.toList).isEmpty then .ok empty
  else
    (s.toList.splitOn '|').foldlM (fun keys flag => return keys ∪ (← ofFlag (Text.trim flag))) empty

/-- The names of the keys, separated by bars, and a hexadecimal number for the bits without one. -/
def toText (m : Modifiers) : String :=
  let held := named.filter fun (_, key) => m.contains key
  let rest := held.foldl (fun bits (_, key) => bits &&& ~~~key.bits) m.bits
  let number :=
    if rest = 0 then [] else ["0x" ++ String.ofList (Nat.toDigits 16 rest.toNat)]
  String.intercalate " | " (held.map (·.1) ++ number)

def ofJson (raw : String) : Except Json.Fault Modifiers :=
  Json.Reader.readAll
    (Json.Reader.located do
      match ofText (← Json.Reader.textAs "a string value of `|` separated flags") with
      | .ok m => return m
      | .error e => Json.Reader.reject (.refused e.message))
    raw

def toJson (m : Modifiers) : String := Json.writeText m.toText

end GraphLens.Modifiers
