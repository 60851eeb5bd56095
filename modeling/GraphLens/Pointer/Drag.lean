import GraphLens.Geometry

namespace GraphLens

/-- A press in progress. `anchor` is the content point that was under the pointer when it was
pressed; the other places are on the canvas. -/
structure Drag (α : Type) where
  anchor : Point α
  press : Point α
  last : Point α
  moved : Bool

namespace Drag

variable {α : Type} [Scalar α]

def start (press anchor : Point α) : Drag α := ⟨anchor, press, press, false⟩

def update (d : Drag α) (pos : Point α) : Drag α :=
  { d with last := pos, moved := d.moved || pos != d.press }

def step (d : Drag α) (pos : Point α) : Vec α := pos - d.last

def totalOffset (d : Drag α) : Vec α := d.last - d.press

def isClick (d : Drag α) : Bool := !d.moved

end Drag

end GraphLens
