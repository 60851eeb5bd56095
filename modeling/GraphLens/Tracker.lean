import GraphLens.Surface
import GraphLens.Transform

namespace GraphLens

/-- A surface, the transform installed on it, and the transforms saved, newest first. A refused
change reaches neither the transforms nor the surface, so that they stay in step. -/
structure Tracker (σ α : Type) where
  surface : σ
  current : Transform α
  stack : List (Transform α)

namespace Tracker

variable {σ α ι : Type} [Scalar α] [DrawingSurface σ α ι]

def draw (t : Tracker σ α) (call : Surface.Call α ι) : Tracker σ α :=
  { t with surface := DrawingSurface.perform t.surface call }

def ofSurface (surface : σ) : Tracker σ α :=
  draw ⟨surface, .identity, []⟩ (.setTransform .identity)

def depth (t : Tracker σ α) : Nat := t.stack.length

def save (t : Tracker σ α) : Tracker σ α :=
  draw { t with stack := t.current :: t.stack } .save

def restore (t : Tracker σ α) : Tracker σ α :=
  match t.stack with
  | [] => t
  | saved :: stack => draw { t with current := saved, stack } .restore

/-- Puts `next` in place, if it was accepted, by the given call. -/
def install (t : Tracker σ α) (next : Except (DegenerateError α) (Transform α))
    (call : Surface.Call α ι) : Except (DegenerateError α) Unit × Tracker σ α :=
  match next with
  | .error e => (.error e, t)
  | .ok next => (.ok (), draw { t with current := next } call)

def translate (t : Tracker σ α) (v : Vec α) : Except (DegenerateError α) Unit × Tracker σ α :=
  t.install (t.current.translate v) (.translate v)

def scale (t : Tracker σ α) (sx sy : α) : Except (DegenerateError α) Unit × Tracker σ α :=
  t.install (t.current.scale sx sy) (.scale sx sy)

def rotate (t : Tracker σ α) (angle : α) : Except (DegenerateError α) Unit × Tracker σ α :=
  t.install (t.current.rotate angle) (.rotate angle)

def transform (t : Tracker σ α) (m : Affine α) : Except (DegenerateError α) Unit × Tracker σ α :=
  t.install (t.current.compose m) (.transform m)

def setTransform (t : Tracker σ α) (m : Affine α) : Except (DegenerateError α) Unit × Tracker σ α :=
  t.install (Transform.ofAffine m) (.setTransform m)

def resetTransform (t : Tracker σ α) : Tracker σ α :=
  draw { t with current := .identity } (.setTransform .identity)

def clearRect (t : Tracker σ α) (r : Rect α) : Tracker σ α := t.draw (.clearRect r)

def drawImage (t : Tracker σ α) (image : ι) (origin : Point α) : Tracker σ α :=
  t.draw (.drawImage image origin)

def transformedPoint (t : Tracker σ α) (p : Point α) : Point α := t.current.mapPointInverse p

def size (t : Tracker σ α) : Size α := DrawingSurface.size t.surface

inductive Op (α ι : Type) where
  | save
  | restore
  | translate (v : Vec α)
  | scale (sx sy : α)
  | rotate (angle : α)
  | transform (m : Affine α)
  | setTransform (m : Affine α)
  | resetTransform
  | clearRect (r : Rect α)
  | drawImage (image : ι) (origin : Point α)

/-- What a request is answered, and the tracker after it. -/
def serve (t : Tracker σ α) : Op α ι → Except (DegenerateError α) Unit × Tracker σ α
  | .save => (.ok (), t.save)
  | .restore => (.ok (), t.restore)
  | .translate v => t.translate v
  | .scale sx sy => t.scale sx sy
  | .rotate angle => t.rotate angle
  | .transform m => t.transform m
  | .setTransform m => t.setTransform m
  | .resetTransform => (.ok (), t.resetTransform)
  | .clearRect r => (.ok (), t.clearRect r)
  | .drawImage image origin => (.ok (), t.drawImage image origin)

/-- The tracker after a request that is accepted. -/
def perform (t : Tracker σ α) (op : Op α ι) : Except (DegenerateError α) (Tracker σ α) :=
  (t.serve op).1.map fun () => (t.serve op).2

inductive Notice (α : Type) where
  | rejected (op : String) (reason : DegenerateError α)
  | unmatchedRestore

def Op.call : Op α ι → Surface.Call α ι
  | .save => .save
  | .restore => .restore
  | .translate v => .translate v
  | .scale sx sy => .scale sx sy
  | .rotate angle => .rotate angle
  | .transform m => .transform m
  | .setTransform m => .setTransform m
  | .resetTransform => .setTransform .identity
  | .clearRect r => .clearRect r
  | .drawImage image origin => .drawImage image origin

def Op.name : Op α ι → String
  | .resetTransform => "reset_transform"
  | op => op.call.name

def notices (t : Tracker σ α) (op : Op α ι) : List (Notice α) :=
  match op, t.perform op with
  | op, .error e => [.rejected op.name e]
  | .restore, .ok _ => if t.stack.isEmpty then [.unmatchedRestore] else []
  | _, .ok _ => []

end Tracker

end GraphLens
