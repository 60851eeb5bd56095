import GraphLens.Decimal.Shortest

namespace GraphLens.Decimal

/-- How the fewest digits that read back are written. A number is written with all its places if
its leading digit has an exponent from `plainFrom` up to one below `plainBelow`. -/
structure Layout where
  tie : Tie
  plainFrom : Int
  plainBelow : Int
  pointZero : Bool
  plusSign : Bool
  nan : String
  infinity : String
  negInfinity : String

namespace Layout

def plain (layout : Layout) (digits : List Char) (exponent : Int) : List Char :=
  if exponent < 0 then
    '0' :: '.' :: List.replicate (-exponent - 1).toNat '0' ++ digits
  else
    let whole := exponent.toNat + 1
    let fraction := digits.drop whole
    digits.take whole ++ List.replicate (whole - digits.length) '0' ++
      if fraction.isEmpty then if layout.pointZero then ['.', '0'] else [] else '.' :: fraction

def scientific (layout : Layout) (digits : List Char) (exponent : Int) : List Char :=
  let fraction := digits.drop 1
  let sign := if exponent < 0 then ['-'] else if layout.plusSign then ['+'] else []
  digits.take 1 ++ (if fraction.isEmpty then [] else '.' :: fraction) ++
    'e' :: sign ++ Nat.toDigits 10 exponent.natAbs

def write (layout : Layout) (digits : List Char) (exponent : Int) : List Char :=
  if layout.plainFrom ≤ exponent ∧ exponent < layout.plainBelow then layout.plain digits exponent
  else layout.scientific digits exponent

def writeMagnitude (layout : Layout) (bits : Nat) : List Char :=
  if bits = 0 then layout.write ['0'] 0
  else
    let d := shortest (.ofBits bits) layout.tie
    let digits := Nat.toDigits 10 d.coefficient
    layout.write digits (d.exponent + digits.length - 1)

def render (layout : Layout) (x : Float) : String :=
  let bits := x.toBits.toNat
  if x.isNaN then layout.nan
  else if x.isInf then if bits < Nat.pow 2 63 then layout.infinity else layout.negInfinity
  else
    String.ofList
      (if bits < Nat.pow 2 63 then layout.writeMagnitude bits
       else '-' :: layout.writeMagnitude (bits - Nat.pow 2 63))

end Layout

end GraphLens.Decimal
