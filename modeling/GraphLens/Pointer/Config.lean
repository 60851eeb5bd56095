import GraphLens.Scalar

namespace GraphLens

/-- The tuning of panning and zooming: `n` clicks zoom by the power `n` of `scaleFactor`, and a
wheel magnitude of `wheelDeltaDivisor` is one click. -/
structure PanZoomConfig (α : Type) where
  scaleFactor : α
  wheelDeltaDivisor : α
  clickZoomClicks : α

namespace PanZoomConfig

variable {α : Type} [Scalar α]

def standard : PanZoomConfig α := ⟨1.1, 40.0, 1⟩

instance : Inhabited (PanZoomConfig α) := ⟨standard⟩

def wheelClicks (config : PanZoomConfig α) (delta : α) : Option α :=
  let clicks := delta / config.wheelDeltaDivisor
  if Scalar.isFinite clicks && clicks != 0 then some clicks else none

end PanZoomConfig

end GraphLens
