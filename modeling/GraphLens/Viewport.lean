import GraphLens.Tracker

namespace GraphLens

structure Viewport (σ α ι : Type) where
  tracker : Tracker σ α
  content : Option ι

namespace Viewport

variable {σ α ι : Type} [Scalar α] [DrawingSurface σ α ι]

def ofSurface (surface : σ) : Viewport σ α ι := ⟨.ofSurface surface, none⟩

def transform (v : Viewport σ α ι) : Transform α := v.tracker.current

def canvasSize (v : Viewport σ α ι) : Size α := v.tracker.size

def transformedPoint (v : Viewport σ α ι) (p : Point α) : Point α := v.tracker.transformedPoint p

def visibleRect (v : Viewport σ α ι) : Rect α :=
  let canvas := v.canvasSize.toRect
  let topLeft := v.transformedPoint ⟨canvas.x0, canvas.y0⟩
  let topRight := v.transformedPoint ⟨canvas.x1, canvas.y0⟩
  let bottomLeft := v.transformedPoint ⟨canvas.x0, canvas.y1⟩
  let bottomRight := v.transformedPoint ⟨canvas.x1, canvas.y1⟩
  ((Rect.ofPoints topLeft topRight).extend bottomLeft).extend bottomRight

/-- Makes the canvas blank: the visible rectangle under the current transform, and then all of
the canvas under the identity, which leaves no residue of rounded corners. -/
def blank (v : Viewport σ α ι) : Tracker σ α :=
  let visible := v.tracker.clearRect v.visibleRect
  (visible.save.resetTransform.clearRect v.canvasSize.toRect).restore

def redraw (v : Viewport σ α ι) : Viewport σ α ι :=
  match v.content with
  | none => { v with tracker := v.blank }
  | some image => { v with tracker := v.blank.drawImage image .origin }

def setContent (v : Viewport σ α ι) (image : ι) : Viewport σ α ι :=
  redraw { v with content := some image }

def clearContent (v : Viewport σ α ι) : Viewport σ α ι := redraw { v with content := none }

def resetView (v : Viewport σ α ι) : Viewport σ α ι :=
  redraw { v with tracker := v.tracker.resetTransform }

def mapSurface (v : Viewport σ α ι) (f : σ → σ) : Viewport σ α ι :=
  { v with tracker := { v.tracker with surface := f v.tracker.surface } }

end Viewport

end GraphLens
