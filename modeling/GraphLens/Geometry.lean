import GraphLens.Scalar

namespace GraphLens

structure Point (α : Type) where
  x : α
  y : α
  deriving BEq

structure Vec (α : Type) where
  x : α
  y : α
  deriving BEq

structure Size (α : Type) where
  width : α
  height : α
  deriving BEq

structure Rect (α : Type) where
  x0 : α
  y0 : α
  x1 : α
  y1 : α
  deriving BEq

variable {α : Type} [Scalar α]

namespace Point

def origin : Point α := ⟨0, 0⟩

def sub (p q : Point α) : Vec α := ⟨p.x - q.x, p.y - q.y⟩

instance : HSub (Point α) (Point α) (Vec α) := ⟨sub⟩

def toVec (p : Point α) : Vec α := ⟨p.x, p.y⟩

end Point

instance : Neg (Vec α) := ⟨fun v => ⟨-v.x, -v.y⟩⟩

namespace Rect

def width (r : Rect α) : α := r.x1 - r.x0

def height (r : Rect α) : α := r.y1 - r.y0

def ofPoints (p q : Point α) : Rect α :=
  ⟨Scalar.min p.x q.x, Scalar.min p.y q.y, Scalar.max p.x q.x, Scalar.max p.y q.y⟩

def extend (r : Rect α) (p : Point α) : Rect α :=
  ⟨Scalar.min r.x0 p.x, Scalar.min r.y0 p.y, Scalar.max r.x1 p.x, Scalar.max r.y1 p.y⟩

end Rect

def Size.toRect (s : Size α) : Rect α := ⟨0, 0, s.width, s.height⟩

end GraphLens
