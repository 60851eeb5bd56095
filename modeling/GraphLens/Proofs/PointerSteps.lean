import GraphLens.Pointer

namespace GraphLens

namespace Pointer

open PanZoomTarget

variable {τ α : Type} [Scalar α] [PanZoomTarget τ α]

def focus (p : Pointer α) (target : τ) : Point α := transformedPoint target p.lastPosition

def zoomFactor (p : Pointer α) (clicks : α) : α := Scalar.pow p.config.scaleFactor clicks

def clickClicks (p : Pointer α) (modifiers : Modifiers) : α :=
  (if modifiers.contains .shiftKey then -1 else 1) * p.config.clickZoomClicks

inductive Zooms (p : Pointer α) (target : τ) (clicks : α) : Outcome τ α → Prop
  | accepted {target' : τ}
      (ok : apply target (zoomMap (p.focus target) (p.zoomFactor clicks)) = (.ok (), target')) :
      Zooms p target clicks
        ⟨p, redraw target', .zoomed (p.zoomFactor clicks) (p.focus target),
          [.zoomed clicks (p.zoomFactor clicks)]⟩
  | refused {e : DegenerateError α} {target' : τ}
      (error : apply target (zoomMap (p.focus target) (p.zoomFactor clicks)) =
        (.error e, target')) :
      Zooms p target clicks
        ⟨p, target', .rejected, [.zoomRejected e clicks (p.zoomFactor clicks)]⟩

theorem zooms_zoom (p : Pointer α) (target : τ) (clicks : α) :
    Zooms p target clicks (p.zoom target clicks) := by
  unfold zoom
  dsimp only
  split
  · next ok => exact .accepted ok
  · next error => exact .refused error

/-- All that an event can do to a pointer and to its target, whatever the target is. -/
inductive Steps (p : Pointer α) (target : τ) : Event α → Outcome τ α → Prop
  | pressed (pos : Point α) :
      Steps p target (.down pos)
        ⟨⟨p.config, pos, some (.start pos (transformedPoint target pos))⟩, target, .pressed,
          [.dragStarted]⟩
  | hovered {pos : Point α} (idle : p.drag = none) :
      Steps p target (.move pos) ⟨⟨p.config, pos, none⟩, target, .ignored, []⟩
  | panned {pos : Point α} {drag : Drag α} {target' : τ} (held : p.drag = some drag)
      (ok : apply target (.shift (transformedPoint target pos - drag.anchor)) =
        (.ok (), target')) :
      Steps p target (.move pos)
        ⟨⟨p.config, pos, some (drag.update pos)⟩, redraw target',
          .panned (transformedPoint target pos - drag.anchor), []⟩
  | panRefused {pos : Point α} {drag : Drag α} {e : DegenerateError α} {target' : τ}
      (held : p.drag = some drag)
      (error : apply target (.shift (transformedPoint target pos - drag.anchor)) =
        (.error e, target')) :
      Steps p target (.move pos)
        ⟨⟨p.config, pos, some drag⟩, target', .rejected, [.panRejected e]⟩
  | unpressed {pos : Point α} {modifiers : Modifiers} (idle : p.drag = none) :
      Steps p target (.up pos modifiers) ⟨⟨p.config, pos, none⟩, target, .ignored, []⟩
  | released {pos : Point α} {modifiers : Modifiers} {drag : Drag α} (held : p.drag = some drag)
      (moved : drag.isClick = false) :
      Steps p target (.up pos modifiers)
        ⟨⟨p.config, pos, none⟩, target, .released, [.dragEnded]⟩
  | clicked {pos : Point α} {modifiers : Modifiers} {drag : Drag α} {outcome : Outcome τ α}
      (held : p.drag = some drag) (still : drag.isClick = true)
      (zooms : Zooms ⟨p.config, pos, none⟩ target (p.clickClicks modifiers) outcome) :
      Steps p target (.up pos modifiers) outcome
  | unturned {pos : Point α} {delta : α} (still : p.config.wheelClicks delta = none) :
      Steps p target (.wheel pos delta) ⟨⟨p.config, pos, p.drag⟩, target, .ignored, []⟩
  | turned {pos : Point α} {delta clicks : α} {outcome : Outcome τ α}
      (turn : p.config.wheelClicks delta = some clicks)
      (zooms : Zooms ⟨p.config, pos, p.drag⟩ target clicks outcome) :
      Steps p target (.wheel pos delta) outcome
  | zoomed {clicks : α} {outcome : Outcome τ α} (zooms : Zooms p target clicks outcome) :
      Steps p target (.zoom clicks) outcome
  | cancelled :
      Steps p target .cancel
        ⟨⟨p.config, p.lastPosition, none⟩, target,
          if p.isDragging then .cancelled else .ignored, []⟩

theorem steps_handle (p : Pointer α) (target : τ) (event : Event α) :
    Steps p target event (p.handle target event) := by
  obtain ⟨config, lastPosition, drag⟩ := p
  cases event with
  | down pos => exact .pressed pos
  | move pos =>
      cases drag with
      | none => exact .hovered rfl
      | some drag =>
          simp only [handle, move]
          split
          · next ok => exact .panned rfl ok
          · next error => exact .panRefused rfl error
  | up pos modifiers =>
      cases drag with
      | none => exact .unpressed rfl
      | some drag =>
          simp only [handle, up]
          split
          · next still => exact .clicked rfl still (zooms_zoom _ _ _)
          · next moved => exact .released rfl (Bool.not_eq_true _ ▸ moved)
  | wheel pos delta =>
      simp only [handle, wheel]
      split
      · next still => exact .unturned still
      · next turn => exact .turned turn (zooms_zoom _ _ _)
  | zoom clicks => exact .zoomed (zooms_zoom _ _ _)
  | cancel => exact .cancelled

theorem handle_move_of_ok {p : Pointer α} {target target' : τ} {pos : Point α} {drag : Drag α}
    (held : p.drag = some drag)
    (ok : apply target (.shift (transformedPoint target pos - drag.anchor)) = (.ok (), target')) :
    p.handle target (.move pos) =
      ⟨⟨p.config, pos, some (drag.update pos)⟩, redraw target',
        .panned (transformedPoint target pos - drag.anchor), []⟩ := by
  simp only [handle, move, held, ok]

theorem Zooms.pointer {p : Pointer α} {target : τ} {clicks : α} {outcome : Outcome τ α}
    (h : Zooms p target clicks outcome) : outcome.pointer = p := by
  cases h with
  | accepted ok => rfl
  | refused error => rfl

def Event.keepsPress : Event α → Bool
  | .move _ | .wheel _ _ | .zoom _ => true
  | .down _ | .up _ _ | .cancel => false

theorem Steps.drag_of_keepsPress {p : Pointer α} {target : τ} {event : Event α}
    {outcome : Outcome τ α} {drag : Drag α} (h : Steps p target event outcome)
    (keeps : event.keepsPress = true) (held : p.drag = some drag) :
    ∃ drag', outcome.pointer.drag = some drag' ∧ drag'.anchor = drag.anchor ∧
      drag'.press = drag.press := by
  cases h with
  | pressed pos => cases keeps
  | hovered idle => simp [held] at idle
  | panned held' ok =>
      obtain rfl := Option.some.inj (held.symm.trans held')
      exact ⟨_, rfl, rfl, rfl⟩
  | panRefused held' error =>
      obtain rfl := Option.some.inj (held.symm.trans held')
      exact ⟨_, rfl, rfl, rfl⟩
  | unpressed idle => cases keeps
  | released held' moved => cases keeps
  | clicked held' still zooms => cases keeps
  | unturned still => exact ⟨drag, held, rfl, rfl⟩
  | turned turn zooms => exact ⟨drag, by rw [zooms.pointer, held], rfl, rfl⟩
  | zoomed zooms => exact ⟨drag, by rw [zooms.pointer, held], rfl, rfl⟩
  | cancelled => cases keeps

/-- What the event has done to the target: nothing, or one accepted map and a repaint, or one
refused map. -/
inductive Reaches (target : τ) : τ → Prop
  | untouched : Reaches target target
  | changed {m : Affine α} {target' : τ} (ok : apply target m = (.ok (), target')) :
      Reaches target (redraw target')
  | refused {m : Affine α} {e : DegenerateError α} {target' : τ}
      (error : apply target m = (.error e, target')) : Reaches target target'

theorem Zooms.reaches {p : Pointer α} {target : τ} {clicks : α} {outcome : Outcome τ α}
    (h : Zooms p target clicks outcome) : Reaches target outcome.target := by
  cases h with
  | accepted ok => exact .changed ok
  | refused error => exact .refused error

theorem Steps.reaches {p : Pointer α} {target : τ} {event : Event α} {outcome : Outcome τ α}
    (h : Steps p target event outcome) : Reaches target outcome.target := by
  cases h with
  | panned held ok => exact .changed ok
  | panRefused held error => exact .refused error
  | clicked held still zooms => exact zooms.reaches
  | turned turn zooms => exact zooms.reaches
  | zoomed zooms => exact zooms.reaches
  | pressed | hovered | unpressed | released | unturned | cancelled => exact .untouched

def Response.repaints : Response α → Bool
  | .panned _ | .zoomed _ _ => true
  | .ignored | .pressed | .released | .cancelled | .rejected => false

theorem Zooms.target_of_repaints {p : Pointer α} {target : τ} {clicks : α} {outcome : Outcome τ α}
    (h : Zooms p target clicks outcome) (repaints : outcome.response.repaints = true) :
    ∃ m target', apply target m = (.ok (), target') ∧ outcome.target = redraw target' := by
  cases h with
  | accepted ok => exact ⟨_, _, ok, rfl⟩
  | refused error => cases repaints

theorem Steps.target_of_repaints {p : Pointer α} {target : τ} {event : Event α}
    {outcome : Outcome τ α} (h : Steps p target event outcome)
    (repaints : outcome.response.repaints = true) :
    ∃ m target', apply target m = (.ok (), target') ∧ outcome.target = redraw target' := by
  cases h with
  | panned held ok => exact ⟨_, _, ok, rfl⟩
  | clicked held still zooms => exact zooms.target_of_repaints repaints
  | turned turn zooms => exact zooms.target_of_repaints repaints
  | zoomed zooms => exact zooms.target_of_repaints repaints
  | cancelled => split at repaints <;> cases repaints
  | pressed | hovered | panRefused | unpressed | released | unturned => cases repaints

theorem Zooms.target_of_silent {p : Pointer α} {target : τ} {clicks : α} {outcome : Outcome τ α}
    (h : Zooms p target clicks outcome) (silent : outcome.response.repaints = false) :
    ∃ m e, apply target m = (.error e, outcome.target) := by
  cases h with
  | accepted ok => cases silent
  | refused error => exact ⟨_, _, error⟩

theorem Steps.target_of_silent {p : Pointer α} {target : τ} {event : Event α}
    {outcome : Outcome τ α} (h : Steps p target event outcome)
    (silent : outcome.response.repaints = false) :
    outcome.target = target ∨ ∃ m e, apply target m = (.error e, outcome.target) := by
  cases h with
  | panned held ok => cases silent
  | panRefused held error => exact .inr ⟨_, _, error⟩
  | clicked held still zooms => exact .inr (zooms.target_of_silent silent)
  | turned turn zooms => exact .inr (zooms.target_of_silent silent)
  | zoomed zooms => exact .inr (zooms.target_of_silent silent)
  | pressed | hovered | unpressed | released | unturned | cancelled => exact .inl rfl

section

variable {υ : Type} [PanZoomTarget υ α]

/-- A map between targets that a pointer does not notice. -/
structure Unnoticed (g : τ → υ) : Prop where
  transformedPoint (target : τ) (pos : Point α) :
    transformedPoint (g target) pos = transformedPoint target pos
  apply (target : τ) (m : Affine α) : apply (g target) m = (apply target m).map id g
  redraw (target : τ) : redraw (g target) = g (redraw target)

def Outcome.map (g : τ → υ) (o : Outcome τ α) : Outcome υ α :=
  ⟨o.pointer, g o.target, o.response, o.notices⟩

theorem zoom_map {g : τ → υ} (h : Unnoticed g) (p : Pointer α) (target : τ) (clicks : α) :
    p.zoom (g target) clicks = (p.zoom target clicks).map g := by
  simp only [zoom, h.transformedPoint, h.apply]
  obtain ⟨result, target'⟩ := apply target
    (zoomMap (transformedPoint target p.lastPosition) (Scalar.pow p.config.scaleFactor clicks))
  cases result with
  | ok => simp only [Prod.map, id, h.redraw, Outcome.map]
  | error e => rfl

theorem handle_map {g : τ → υ} (h : Unnoticed g) (p : Pointer α) (target : τ) (event : Event α) :
    p.handle (g target) event = (p.handle target event).map g := by
  cases event with
  | down pos => simp only [handle, down, h.transformedPoint, Outcome.map]
  | move pos =>
      simp only [handle, move]
      cases p.drag with
      | none => rfl
      | some drag =>
          simp only [h.transformedPoint, h.apply]
          obtain ⟨result, target'⟩ :=
            apply target (.shift (transformedPoint target pos - drag.anchor))
          cases result with
          | ok => simp only [Prod.map, id, h.redraw, Outcome.map]
          | error e => rfl
  | up pos modifiers =>
      simp only [handle, up]
      cases p.drag with
      | none => rfl
      | some drag =>
          dsimp only
          split
          · exact zoom_map h _ target _
          · rfl
  | wheel pos delta =>
      simp only [handle, wheel]
      cases p.config.wheelClicks delta with
      | none => rfl
      | some clicks => exact zoom_map h _ target clicks
  | zoom clicks => exact zoom_map h p target clicks
  | cancel => rfl

end

end Pointer

end GraphLens
