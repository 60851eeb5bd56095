import GraphLens.Decimal.Layout

namespace GraphLens.Json

/-- Whole numbers that fit in 64 bits are kept exactly; all others are binary fractions. -/
inductive Number where
  | nat (n : Nat)
  | negative (n : Int)
  | fraction (x : Float)

def numberLayout : Decimal.Layout where
  tie := .toEven
  plainFrom := -5
  plainBelow := 16
  pointZero := true
  plusSign := true
  nan := "null"
  infinity := "null"
  negInfinity := "null"

namespace Number

def toFloat : Number → Float
  | .nat n => Float.ofNat n
  | .negative n => Float.ofInt n
  | .fraction x => x

def render : Number → String
  | .nat n => toString n
  | .negative n => toString n
  | .fraction x => numberLayout.render x

end Number

end GraphLens.Json
