import GraphLens.Pointer.Config
import GraphLens.Pointer.Drag
import GraphLens.Pointer.Modifiers
import GraphLens.Transform

namespace GraphLens

/-- Something that can be panned and zoomed. It may refuse a map, and paints nothing by itself. -/
class PanZoomTarget (τ : Type) (α : outParam Type) where
  transformedPoint : τ → Point α → Point α
  apply : τ → Affine α → Except (DegenerateError α) Unit × τ
  redraw : τ → τ

inductive Pointer.Response (α : Type) where
  | ignored
  | pressed
  | panned (delta : Vec α)
  | zoomed (factor : α) (focus : Point α)
  | released
  | cancelled
  | rejected

def Pointer.Response.name {α : Type} : Response α → String
  | .ignored => "ignored"
  | .pressed => "pressed"
  | .panned _ => "panned"
  | .zoomed _ _ => "zoomed"
  | .released => "released"
  | .cancelled => "cancelled"
  | .rejected => "rejected"

/-- The host should keep the selection of text suppressed after this response. -/
def Pointer.Response.suppressesSelection {α : Type} : Response α → Bool
  | .pressed | .panned _ => true
  | _ => false

inductive Pointer.Notice (α : Type) where
  | dragStarted
  | dragEnded
  | zoomed (clicks factor : α)
  | panRejected (reason : DegenerateError α)
  | zoomRejected (reason : DegenerateError α) (clicks factor : α)

inductive Pointer.Event (α : Type) where
  | down (pos : Point α)
  | move (pos : Point α)
  | up (pos : Point α) (modifiers : Modifiers)
  | wheel (pos : Point α) (delta : α)
  | zoom (clicks : α)
  | cancel

/-- The pointer of one canvas: its tuning, where it was last, and the press in progress. -/
structure Pointer (α : Type) where
  config : PanZoomConfig α
  lastPosition : Point α
  drag : Option (Drag α)

namespace Pointer

variable {τ α : Type} [Scalar α] [PanZoomTarget τ α]

def ofConfig (config : PanZoomConfig α) : Pointer α := ⟨config, .origin, none⟩

instance : Inhabited (Pointer α) := ⟨ofConfig .standard⟩

def isDragging (p : Pointer α) : Bool := p.drag.isSome

structure Outcome (τ α : Type) where
  pointer : Pointer α
  target : τ
  response : Response α
  notices : List (Notice α)

def zoomMap (focus : Point α) (factor : α) : Affine α :=
  .shift focus.toVec * .scaling factor factor * .shift (-focus.toVec)

def zoom (p : Pointer α) (target : τ) (clicks : α) : Outcome τ α :=
  let focus := PanZoomTarget.transformedPoint target p.lastPosition
  let factor := Scalar.pow p.config.scaleFactor clicks
  match PanZoomTarget.apply target (zoomMap focus factor) with
  | (.ok (), target) =>
    ⟨p, PanZoomTarget.redraw target, .zoomed factor focus, [.zoomed clicks factor]⟩
  | (.error e, target) => ⟨p, target, .rejected, [.zoomRejected e clicks factor]⟩

/-- A press begins a drag, also in the middle of another one. -/
def down (p : Pointer α) (target : τ) (pos : Point α) : Outcome τ α :=
  let anchor := PanZoomTarget.transformedPoint target pos
  ⟨{ p with lastPosition := pos, drag := some (.start pos anchor) }, target, .pressed,
    [.dragStarted]⟩

/-- A move during a drag brings the grabbed content point back under the pointer. -/
def move (p : Pointer α) (target : τ) (pos : Point α) : Outcome τ α :=
  let p := { p with lastPosition := pos }
  match p.drag with
  | none => ⟨p, target, .ignored, []⟩
  | some drag =>
    let delta := PanZoomTarget.transformedPoint target pos - drag.anchor
    match PanZoomTarget.apply target (.shift delta) with
    | (.ok (), target) =>
      ⟨{ p with drag := some (drag.update pos) }, PanZoomTarget.redraw target, .panned delta, []⟩
    | (.error e, target) => ⟨p, target, .rejected, [.panRejected e]⟩

/-- A release ends a drag. One that never moved is a click, which zooms in, or out with the
shift key. -/
def up (p : Pointer α) (target : τ) (pos : Point α) (modifiers : Modifiers) : Outcome τ α :=
  let idle := { p with lastPosition := pos, drag := none }
  match p.drag with
  | none => ⟨idle, target, .ignored, []⟩
  | some drag =>
    if drag.isClick then
      let sign : α := if modifiers.contains .shiftKey then -1 else 1
      idle.zoom target (sign * p.config.clickZoomClicks)
    else ⟨idle, target, .released, [.dragEnded]⟩

def wheel (p : Pointer α) (target : τ) (pos : Point α) (delta : α) : Outcome τ α :=
  let p := { p with lastPosition := pos }
  match p.config.wheelClicks delta with
  | none => ⟨p, target, .ignored, []⟩
  | some clicks => p.zoom target clicks

def cancel (p : Pointer α) (target : τ) : Outcome τ α :=
  ⟨{ p with drag := none }, target, if p.isDragging then .cancelled else .ignored, []⟩

def handle (p : Pointer α) (target : τ) : Event α → Outcome τ α
  | .down pos => p.down target pos
  | .move pos => p.move target pos
  | .up pos modifiers => p.up target pos modifiers
  | .wheel pos delta => p.wheel target pos delta
  | .zoom clicks => p.zoom target clicks
  | .cancel => p.cancel target

end Pointer

end GraphLens
