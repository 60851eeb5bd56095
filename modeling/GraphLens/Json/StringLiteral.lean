import GraphLens.Json.Reader

namespace GraphLens.Json.Reader

def hexValue? (c : Char) : Option Nat :=
  if '0' ≤ c ∧ c ≤ '9' then some (c.toNat - '0'.toNat)
  else if 'a' ≤ c ∧ c ≤ 'f' then some (c.toNat - 'a'.toNat + 10)
  else if 'A' ≤ c ∧ c ≤ 'F' then some (c.toNat - 'A'.toNat + 10)
  else none

def hexNumber? (digits : List Char) : Option Nat :=
  digits.foldlM (fun n c => return 16 * n + (← hexValue? c)) 0

def hexFour : Reader Nat := do
  let c ← get
  let four := c.rest.take 4
  let bytes := (String.ofList four).utf8ByteSize
  if bytes < 4 then throw ⟨.endInString, some (c.position.skipBytes c.rest bytes)⟩
  else
    match hexNumber? four with
    | some n =>
      set (⟨c.rest.drop 4, four.foldl .advance c.position⟩ : Cursor)
      return n
    | none => throw ⟨.invalidEscape, some (c.position.skipBytes c.rest 4)⟩

def isLeadingSurrogate (n : Nat) : Bool := 0xd800 ≤ n && n ≤ 0xdbff

def isTrailingSurrogate (n : Nat) : Bool := 0xdc00 ≤ n && n ≤ 0xdfff

def pairMark (mark : Char) : Reader Unit := do
  match ← peek with
  | none => failHere .endInString
  | some c => if c = mark then eat else failAhead .unexpectedEndOfHexEscape

def codeUnits : Reader Char := do
  let n ← hexFour
  if isTrailingSurrogate n then failHere .loneLeadingSurrogate
  else if isLeadingSurrogate n then
    pairMark '\\'
    pairMark 'u'
    let m ← hexFour
    if isTrailingSurrogate m then
      return Char.ofNat (0x10000 + (n - 0xd800) * 0x400 + (m - 0xdc00))
    else failHere .loneLeadingSurrogate
  else return Char.ofNat n

def shortEscape? : Char → Option Char
  | '"' => some '"'
  | '\\' => some '\\'
  | '/' => some '/'
  | 'b' => some '\x08'
  | 'f' => some '\x0c'
  | 'n' => some '\n'
  | 'r' => some '\r'
  | 't' => some '\t'
  | _ => none

def escapeWith (unicode : Reader Char) : Reader Char := do
  match ← peek with
  | none => failHere .endInString
  | some 'u' =>
    eat
    unicode
  | some c =>
    match shortEscape? c with
    | some d =>
      eat
      return d
    | none => failAhead .invalidEscape

/-- Reads a text from behind its opening mark. `unicode` reads an escape by code units and
`control` says where a bare control character is reported. -/
def textWith (unicode : Reader Char) (control : Reader Unit) : Reader (List Char) := do
  let step (read : List Char) : Reader (Option (List Char)) := do
    match ← peek with
    | none => failHere .endInString
    | some '"' => return none
    | some '\\' =>
      eat
      return some ((← escapeWith unicode) :: read)
    | some c =>
      if c.toNat < 0x20 then control
      eat
      return some (c :: read)
  let read ← iterate step []
  eat
  return read.reverse

def text : Reader String := do
  return String.ofList (← textWith codeUnits (failAhead .controlCharacter))

def skipText : Reader Unit := do
  let _ ← textWith (do let _ ← hexFour; return ' ') (failHere .controlCharacter)

def key : Reader String := do
  eat
  text

end GraphLens.Json.Reader
