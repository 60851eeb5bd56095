namespace GraphLens.Decimal

inductive Tie where
  | up
  | toEven

/-- The number `coefficient · 10 ^ exponent`. -/
structure Scaled where
  coefficient : Nat
  exponent : Int
  deriving DecidableEq

/-- The positive number `significand · 2 ^ exponent` of a binary format. -/
structure Binary where
  significand : Nat
  exponent : Int
  halvedBelow : Bool

namespace Binary

def ofBits (bits : Nat) : Binary :=
  let fraction : Nat := bits % Nat.pow 2 52
  let biased : Nat := bits / Nat.pow 2 52 % Nat.pow 2 11
  if biased = 0 then ⟨fraction, -1074, false⟩
  else ⟨fraction + Nat.pow 2 52, (biased : Int) - 1075, fraction = 0 && biased > 1⟩

/-- A factor for decimal and one for binary coefficients that make them comparable:
`c · 10 ^ k` is to `m · 2 ^ exponent` as `c` times the first is to `m` times the second. -/
def factors (b : Binary) (k : Int) : Nat × Nat :=
  (Nat.pow 10 k.toNat * Nat.pow 2 (-b.exponent).toNat,
    Nat.pow 2 b.exponent.toNat * Nat.pow 10 (-k).toNat)

def digitCount (n : Nat) : Nat := (Nat.toDigits 10 n).length

def leading (b : Binary) : Int :=
  let num := b.significand * Nat.pow 2 b.exponent.toNat
  let den := Nat.pow 2 (-b.exponent).toNat
  if den ≤ num then (digitCount (num / den) : Int) - 1 else -(digitCount ((den - 1) / num) : Int)

/-- A real that rounds to `b`; the bounds do so if the significand is even. -/
def readsBack (b : Binary) (d : Scaled) : Bool :=
  let (decimal, binary) := b.factors d.exponent
  let low := (4 * b.significand - if b.halvedBelow then 1 else 2) * binary
  let high := (4 * b.significand + 2) * binary
  let point := 4 * d.coefficient * decimal
  if b.significand % 2 = 0 then decide (low ≤ point) && decide (point ≤ high)
  else decide (low < point) && decide (point < high)

/-- The point of the grid of `10 ^ k` that is nearest to `b`, of those beside it that read
back. -/
def onGrid (b : Binary) (tie : Tie) (k : Int) : Option Scaled :=
  let (decimal, binary) := b.factors k
  let value := b.significand * binary
  let below := value / decimal
  let down : Scaled := ⟨below, k⟩
  let up : Scaled := ⟨below + 1, k⟩
  match b.readsBack down, b.readsBack up with
  | false, false => none
  | true, false => some down
  | false, true => some up
  | true, true =>
    match compare (2 * (value % decimal)) decimal, tie with
    | .lt, _ => some down
    | .gt, _ => some up
    | .eq, .up => some up
    | .eq, .toEven => some (if below % 2 = 0 then down else up)

def exact (b : Binary) : Scaled :=
  ⟨b.significand * Nat.pow 2 b.exponent.toNat * Nat.pow 5 (-b.exponent).toNat, min b.exponent 0⟩

end Binary

def Scaled.strip (d : Scaled) : Nat → Scaled
  | 0 => d
  | fuel + 1 =>
    if d.coefficient ≠ 0 ∧ d.coefficient % 10 = 0 then
      strip ⟨d.coefficient / 10, d.exponent + 1⟩ fuel
    else d

/-- The fewest digits that read back as `b`, and of those the nearest. -/
def shortest (b : Binary) (tie : Tie) : Scaled :=
  let found := (List.range 17).findSome? fun n : Nat => b.onGrid tie (b.leading - n)
  let d := found.getD b.exact
  d.strip (Binary.digitCount d.coefficient)

end GraphLens.Decimal
