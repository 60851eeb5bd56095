import GraphLens.Geometry

namespace GraphLens

/-- The map with the matrix `[a c e; b d f; 0 0 1]`. Sums and products are taken in the order
written here, which fixes the last bit of every result on machine numbers. -/
structure Affine (α : Type) where
  a : α
  b : α
  c : α
  d : α
  e : α
  f : α
  deriving BEq

namespace Affine

variable {α : Type} [Scalar α]

def identity : Affine α := ⟨1, 0, 0, 1, 0, 0⟩

def shift (v : Vec α) : Affine α := ⟨1, 0, 0, 1, v.x, v.y⟩

def scaling (sx sy : α) : Affine α := ⟨sx, 0, 0, sy, 0, 0⟩

def rotation (angle : α) : Affine α :=
  let c := Scalar.cos angle
  let s := Scalar.sin angle
  ⟨c, s, -s, c, 0, 0⟩

/-- The map that applies `n` and then `m`. -/
def mul (m n : Affine α) : Affine α where
  a := m.a * n.a + m.c * n.b
  b := m.b * n.a + m.d * n.b
  c := m.a * n.c + m.c * n.d
  d := m.b * n.c + m.d * n.d
  e := m.a * n.e + m.c * n.f + m.e
  f := m.b * n.e + m.d * n.f + m.f

instance : Mul (Affine α) := ⟨mul⟩

def apply (m : Affine α) (p : Point α) : Point α :=
  ⟨m.a * p.x + m.c * p.y + m.e, m.b * p.x + m.d * p.y + m.f⟩

def det (m : Affine α) : α := m.a * m.d - m.b * m.c

def inverse (m : Affine α) : Affine α :=
  let i := 1 / m.det
  ⟨i * m.d, -i * m.b, -i * m.c, i * m.a, i * (m.c * m.f - m.d * m.e), i * (m.b * m.e - m.a * m.f)⟩

def coeffs (m : Affine α) : List α := [m.a, m.b, m.c, m.d, m.e, m.f]

def offset (m : Affine α) : Vec α := ⟨m.e, m.f⟩

def isFinite (m : Affine α) : Bool := m.coeffs.all Scalar.isFinite

end Affine

end GraphLens
