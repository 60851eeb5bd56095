import GraphLens.Decimal.Layout
import GraphLens.Transform

namespace GraphLens

def determinantLayout : Decimal.Layout where
  tie := .up
  plainFrom := 0
  plainBelow := 0
  pointZero := false
  plusSign := false
  nan := "NaN"
  infinity := "inf"
  negInfinity := "-inf"

def DegenerateError.message (e : DegenerateError Float) : String :=
  "transform is not invertible (determinant " ++ determinantLayout.render e.determinant ++ ")"

end GraphLens
