import GraphLens.Scalar

namespace GraphLens

inductive DeltaMode where
  | pixel
  | line
  | page
  deriving DecidableEq

namespace DeltaMode

variable {α : Type} [Scalar α]

def code : DeltaMode → Nat
  | .pixel => 0
  | .line => 1
  | .page => 2

def ofCode : Nat → DeltaMode
  | 1 => .line
  | 2 => .page
  | _ => .pixel

def magnitude : DeltaMode → α
  | .pixel => 1
  | .line => 40.0
  | .page => 400.0

end DeltaMode

/-- The deltas of all units on one scale, on which a line is forty, positive when scrolling up. -/
def wheelMagnitude {α : Type} [Scalar α] (deltaY : α) (mode : DeltaMode) : α :=
  -deltaY * mode.magnitude

end GraphLens
