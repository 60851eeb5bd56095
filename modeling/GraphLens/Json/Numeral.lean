import GraphLens.Json.Reader

namespace GraphLens.Json

structure Numeral where
  negative : Bool
  whole : List Char
  fraction : List Char
  exponent : Option (Bool × List Char)

namespace Reader

def isDigit (c : Char) : Bool := '0' ≤ c && c ≤ '9'

def wholeDigits (atEnd : Cause) : Reader (List Char) := do
  match ← peek with
  | none => failAhead atEnd
  | some '0' =>
    eat
    if (← peek).any isDigit then failAhead .invalidNumber else return ['0']
  | some c => if isDigit c then takeWhile isDigit else failAhead .invalidNumber

def someDigits (atEnd : Cause) : Reader (List Char) := do
  match ← peek with
  | none => failAhead atEnd
  | some c => if isDigit c then takeWhile isDigit else failAhead .invalidNumber

def fractionDigits (atEnd : Cause) : Reader (List Char) := do
  match ← peek with
  | some '.' =>
    eat
    someDigits atEnd
  | _ => return []

def exponentPart (atEnd : Cause) : Reader (Option (Bool × List Char)) := do
  match ← peek with
  | some 'e' | some 'E' =>
    eat
    let negative ← match ← peek with
      | some '-' => do
        eat
        pure true
      | some '+' => do
        eat
        pure false
      | _ => pure false
    return some (negative, ← someDigits atEnd)
  | _ => return none

def numeral (atEnd : Cause) : Reader Numeral := do
  let negative := (← peek) == some '-'
  if negative then eat
  return ⟨negative, ← wholeDigits atEnd, ← fractionDigits atEnd, ← exponentPart atEnd⟩

end Reader

namespace Numeral

def significandLimit : Nat := Nat.pow 2 64 - 1

def exponentLimit : Nat := Nat.pow 2 31 - 1

/-- Appends digits to `n` as long as the number does not exceed `limit`; the digits that are
left come second. -/
def gather (limit n : Nat) : List Char → Nat × List Char
  | [] => (n, [])
  | c :: digits =>
    let more := 10 * n + (c.toNat - '0'.toNat)
    if more ≤ limit then gather limit more digits else (n, c :: digits)

def powerOfTen (n : Nat) : Float := Float.ofScientific 1 false n

/-- `significand · 10 ^ exponent`, unless it is too large. A large negative exponent is taken off
in parts; three of them bring any significand to zero. -/
def scale (significand : Nat) (exponent : Int) : Option Float :=
  let x := Float.ofNat significand
  if exponent < 0 then
    let n := exponent.natAbs
    let parts := (n - 1) / 308
    some (Nat.repeat (· / powerOfTen 308) (min parts 3) x / powerOfTen (n - 308 * parts))
  else if significand = 0 then some x
  else if 308 < exponent then none
  else
    let y := x * powerOfTen exponent.toNat
    if y.isInf then none else some y

def signed (n : Numeral) (x : Float) : Number := .fraction (if n.negative then -x else x)

def wholeNumber (n : Numeral) (significand : Nat) : Number :=
  if !n.negative then .nat significand
  else if 0 < significand ∧ significand ≤ Nat.pow 2 63 then .negative (-significand)
  else n.signed (Float.ofNat significand)

/-- The number that a numeral stands for. One that is too large is refused, with the count of the
digits behind the one that shows it. -/
def toNumber (n : Numeral) : Except Nat Number :=
  let (significand, beyond) := gather significandLimit 0 n.whole
  if beyond.isEmpty && n.fraction.isEmpty && n.exponent.isNone then .ok (n.wholeNumber significand)
  else
    let (significand, dropped) := gather significandLimit significand n.fraction
    let shift : Int := (beyond.length : Int) - (n.fraction.length - dropped.length : Nat)
    let (negative, digits) := n.exponent.getD (false, [])
    let (exponent, unread) := gather exponentLimit 0 digits
    if unread.isEmpty then
      let exponent := if negative then shift - exponent else shift + exponent
      match scale significand (max (-exponentLimit - 1) (min exponent exponentLimit)) with
      | some x => .ok (n.signed x)
      | none => .error 0
    else if significand ≠ 0 ∧ ¬negative then .error (unread.length - 1)
    else .ok (n.signed 0.0)

end Numeral

def Reader.number : Reader Number := do
  let n ← numeral .endInValue
  match n.toNumber with
  | .ok x => return x
  | .error unread =>
    let p := (← get).position
    throw ⟨.numberOutOfRange, some { p with column := p.column - unread }⟩

def Reader.skipNumber : Reader Unit := do
  let _ ← numeral .invalidNumber

end GraphLens.Json
