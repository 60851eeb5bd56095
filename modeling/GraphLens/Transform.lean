import GraphLens.Geometry.Affine

namespace GraphLens

variable {α : Type} [Scalar α]

def degeneracyEpsilon : α := 1e-12

def isDegenerate (det : α) : Bool :=
  Scalar.isNaN det || decide (Scalar.abs det < degeneracyEpsilon)

structure DegenerateError (α : Type) where
  determinant : α

def Affine.isSound (m : Affine α) : Bool := m.isFinite && !isDegenerate m.det

/-- An affine map from content to canvas coordinates, with its inverse. Neither squeezes areas too
much; a map that would is refused. -/
structure Transform (α : Type) where
  forward : Affine α
  inverse : Affine α
  deriving BEq

namespace Transform

def identity : Transform α := ⟨.identity, .identity⟩

instance : Inhabited (Transform α) := ⟨identity⟩

def ofAffine (m : Affine α) : Except (DegenerateError α) (Transform α) :=
  if m.isSound && m.inverse.isSound then .ok ⟨m, m.inverse⟩ else .error ⟨m.det⟩

/-- The transform that applies `op` first and `t` after it. -/
def compose (t : Transform α) (op : Affine α) : Except (DegenerateError α) (Transform α) :=
  ofAffine (t.forward * op)

def translate (t : Transform α) (v : Vec α) : Except (DegenerateError α) (Transform α) :=
  t.compose (.shift v)

def scale (t : Transform α) (sx sy : α) : Except (DegenerateError α) (Transform α) :=
  t.compose (.scaling sx sy)

def rotate (t : Transform α) (angle : α) : Except (DegenerateError α) (Transform α) :=
  t.compose (.rotation angle)

def multiply (t u : Transform α) : Except (DegenerateError α) (Transform α) :=
  t.compose u.forward

def invert (t : Transform α) : Except (DegenerateError α) (Transform α) :=
  if isDegenerate t.inverse.det then .error ⟨t.inverse.det⟩ else .ok ⟨t.inverse, t.forward⟩

def mapPoint (t : Transform α) (p : Point α) : Point α := t.forward.apply p

def mapPointInverse (t : Transform α) (p : Point α) : Point α := t.inverse.apply p

def coeffs (t : Transform α) : List α := t.forward.coeffs

def det (t : Transform α) : α := t.forward.det

def offset (t : Transform α) : Vec α := t.forward.offset

def approxEq (t u : Transform α) (eps : α) : Bool :=
  (t.coeffs.zip u.coeffs).all fun (x, y) => decide (Scalar.abs (x - y) ≤ eps)

end Transform

end GraphLens
