import GraphLens.Pointer
import GraphLens.Viewport

namespace GraphLens

instance {σ α ι : Type} [Scalar α] [DrawingSurface σ α ι] :
    PanZoomTarget (Viewport σ α ι) α where
  transformedPoint := Viewport.transformedPoint
  apply v op := (v.tracker.transform op).map id ({ v with tracker := · })
  redraw := Viewport.redraw

structure Pane (σ α ι : Type) where
  viewport : Viewport σ α ι
  pointer : Pointer α

namespace Pane

variable {σ α ι : Type} [Scalar α] [DrawingSurface σ α ι]

def ofSurface (surface : σ) (config : PanZoomConfig α) : Pane σ α ι :=
  ⟨.ofSurface surface, .ofConfig config⟩

inductive Op (α ι : Type) where
  | pointer (event : Pointer.Event α)
  | tracker (op : Tracker.Op α ι)
  | apply (m : Affine α)
  | setConfig (config : PanZoomConfig α)
  | redraw
  | setContent (image : ι)
  | clearContent
  | resetView

inductive Reply (α ι : Type) where
  | done
  | refused (reason : DegenerateError α)
  | responded (response : Pointer.Response α)
  | cleared (old : Option ι)

inductive Notice (α : Type) where
  | tracker (notice : Tracker.Notice α)
  | pointer (notice : Pointer.Notice α)

/-- What is reported of a pointer notice: a map that the pointer saw refused was refused by the
tracker before. -/
def noticesOf : Pointer.Notice α → List (Notice α)
  | .panRejected e => [.tracker (.rejected "transform" e), .pointer (.panRejected e)]
  | .zoomRejected e clicks factor =>
    [.tracker (.rejected "transform" e), .pointer (.zoomRejected e clicks factor)]
  | notice => [.pointer notice]

/-- The pane with a request to its tracker carried out, unless it is refused. -/
def track (pane : Pane σ α ι) (op : Tracker.Op α ι) : Pane σ α ι × Reply α ι × List (Notice α) :=
  let (result, tracker) := pane.viewport.tracker.serve op
  let reply : Reply α ι :=
    match result with
    | .ok () => .done
    | .error e => .refused e
  ({ pane with viewport := { pane.viewport with tracker } }, reply,
    (pane.viewport.tracker.notices op).map .tracker)

def handle (pane : Pane σ α ι) (event : Pointer.Event α) :
    Pane σ α ι × Pointer.Response α × List (Notice α) :=
  let outcome := pane.pointer.handle pane.viewport event
  (⟨outcome.target, outcome.pointer⟩, outcome.response, outcome.notices.flatMap noticesOf)

def perform (pane : Pane σ α ι) : Op α ι → Pane σ α ι × Reply α ι × List (Notice α)
  | .pointer event =>
    let (pane, response, notices) := pane.handle event
    (pane, .responded response, notices)
  | .tracker op => pane.track op
  | .apply m => pane.track (.transform m)
  | .setConfig config => ({ pane with pointer := { pane.pointer with config } }, .done, [])
  | .redraw => ({ pane with viewport := pane.viewport.redraw }, .done, [])
  | .setContent image => ({ pane with viewport := pane.viewport.setContent image }, .done, [])
  | .clearContent =>
    ({ pane with viewport := pane.viewport.clearContent }, .cleared pane.viewport.content, [])
  | .resetView => ({ pane with viewport := pane.viewport.resetView }, .done, [])

end Pane

end GraphLens
