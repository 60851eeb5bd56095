namespace GraphLens

/-- The operations on a coordinate. Nothing is assumed of them: sums need not be associative and
a number need not equal itself. -/
class Scalar (α : Type) extends Zero α, One α, Add α, Sub α, Mul α, Div α, Neg α, OfScientific α,
    LT α, LE α, BEq α where
  decidableLT : DecidableLT α
  decidableLE : DecidableLE α
  isFinite : α → Bool
  isNaN : α → Bool
  abs : α → α
  cos : α → α
  sin : α → α
  pow : α → α → α

instance Scalar.instDecidableLT {α : Type} [Scalar α] : DecidableLT α := Scalar.decidableLT

instance Scalar.instDecidableLE {α : Type} [Scalar α] : DecidableLE α := Scalar.decidableLE

namespace Scalar

variable {α : Type} [Scalar α]

/-- The smaller of two numbers, or the other one if one is undefined. -/
def min (a b : α) : α :=
  if isNaN a then b else if isNaN b then a else if b < a then b else a

def max (a b : α) : α :=
  if isNaN a then b else if isNaN b then a else if a < b then b else a

end Scalar

instance : Scalar Float where
  zero := 0.0
  one := 1.0
  decidableLT := inferInstance
  decidableLE := inferInstance
  isFinite := Float.isFinite
  isNaN := Float.isNaN
  abs := Float.abs
  cos := Float.cos
  sin := Float.sin
  pow := Float.pow

end GraphLens
