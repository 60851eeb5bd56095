import GraphLens.Proofs.PointerSteps

namespace GraphLens

open PanZoomTarget

inductive TargetCall (α : Type) where
  | apply (m : Affine α)
  | redraw

/-- A target with what was asked of it, oldest first. -/
structure Traced (τ α : Type) where
  target : τ
  calls : List (TargetCall α)

namespace Pointer

variable {τ α : Type}

section

variable [PanZoomTarget τ α]

instance : PanZoomTarget (Traced τ α) α where
  transformedPoint t := transformedPoint t.target
  apply t m := (apply t.target m).map id (⟨·, t.calls ++ [.apply m]⟩)
  redraw t := ⟨redraw t.target, t.calls ++ [.redraw]⟩

theorem unnoticed_traced : Unnoticed (Traced.target : Traced τ α → τ) where
  transformedPoint _ _ := rfl
  apply _ _ := rfl
  redraw _ := rfl

theorem calls_of_apply {t t' : Traced τ α} {m : Affine α} {r : Except (DegenerateError α) Unit}
    (h : apply t m = (r, t')) : t'.calls = t.calls ++ [.apply m] :=
  congrArg (·.2.calls) h.symm

variable {target : τ} {m : Affine α} {done : Response α} {o : Outcome τ α}

inductive Carries (target : τ) (m : Affine α) (done : Response α) : Outcome τ α → Prop
  | accepted {target' : τ} {p : Pointer α} {notices : List (Notice α)}
      (ok : apply target m = (.ok (), target')) :
      Carries target m done ⟨p, redraw target', done, notices⟩
  | refused {e : DegenerateError α} {target' : τ} {p : Pointer α} {notices : List (Notice α)}
      (error : apply target m = (.error e, target')) :
      Carries target m done ⟨p, target', .rejected, notices⟩

theorem Carries.answered_iff (h : Carries target m done o) (hne : done ≠ .rejected) :
    o.response = done ↔ (apply target m).1 = .ok () := by
  cases h with
  | accepted ok => exact iff_of_true rfl (congrArg Prod.fst ok)
  | refused error => simp [error, hne.symm]

theorem Carries.rejected_iff (h : Carries target m done o) (hne : done ≠ .rejected) :
    o.response = .rejected ↔ ∃ e, (apply target m).1 = .error e := by
  cases h with
  | accepted ok => simp [ok, hne]
  | refused error => exact iff_of_true rfl ⟨_, congrArg Prod.fst error⟩

theorem Carries.target_of_ok (h : Carries target m done o) (ok : (apply target m).1 = .ok ()) :
    o.target = redraw (apply target m).2 := by
  cases h with
  | accepted ok' => rw [ok']
  | refused error => simp [error] at ok

theorem Carries.target_of_error {e : DegenerateError α} (h : Carries target m done o)
    (error : (apply target m).1 = .error e) : o.target = (apply target m).2 := by
  cases h with
  | accepted ok => simp [ok] at error
  | refused error' => rw [error']

end

def Event.position? : Event α → Option (Point α)
  | .down pos | .move pos | .up pos _ | .wheel pos _ => some pos
  | .zoom _ | .cancel => none

variable [Scalar α]

def inert (p : Pointer α) : Event α → Bool
  | .move _ | .up _ _ | .cancel => !p.isDragging
  | .wheel _ delta =>
    let clicks := delta / p.config.wheelDeltaDivisor
    !(Scalar.isFinite clicks && clicks != 0)
  | .down _ | .zoom _ => false

theorem inert_wheel_iff (p : Pointer α) (pos : Point α) (delta : α) :
    p.inert (.wheel pos delta) = true ↔ p.config.wheelClicks delta = none := by
  simp only [inert, PanZoomConfig.wheelClicks]
  split <;> simp [*]

/-- The clicks by which an event zooms: those of a release in place, of the wheel, or its own. -/
def clicks? (p : Pointer α) : Event α → Option α
  | .up _ modifiers => if p.drag.any Drag.isClick then some (p.clickClicks modifiers) else none
  | .wheel _ delta => p.config.wheelClicks delta
  | .zoom clicks => some clicks
  | .down _ | .move _ | .cancel => none

variable [PanZoomTarget τ α] {p : Pointer α} {target : τ} {e : Event α} {m : Affine α}
  {done : Response α} {o : Outcome τ α}

/-- The map that an event asks for, with the answer if it is accepted: a move during a drag brings
the grabbed point under the pointer, a zoom keeps the point under the pointer in place. -/
def asked? (p : Pointer α) (target : τ) (e : Event α) : Option (Affine α × Response α) :=
  match e, p.drag with
  | .move pos, some drag =>
    let delta := transformedPoint target pos - drag.anchor
    some (.shift delta, .panned delta)
  | e, _ =>
    (p.clicks? e).map fun clicks =>
      let focus := transformedPoint target (e.position?.getD p.lastPosition)
      let factor := Scalar.pow p.config.scaleFactor clicks
      (zoomMap focus factor, .zoomed factor focus)

omit [PanZoomTarget τ α] in
theorem clicks?_up {drag : Drag α} (held : p.drag = some drag) (still : drag.isClick = true)
    (pos : Point α) (modifiers : Modifiers) :
    p.clicks? (.up pos modifiers) = some (p.clickClicks modifiers) := by
  simp [clicks?, held, still]

theorem asked?_of_clicks {clicks : α} (h : p.clicks? e = some clicks) (target : τ) :
    let focus := transformedPoint target (e.position?.getD p.lastPosition)
    let factor := Scalar.pow p.config.scaleFactor clicks
    p.asked? target e = some (zoomMap focus factor, .zoomed factor focus) := by
  cases e with
  | move pos => cases h
  | down | up | wheel | zoom | cancel => simp only [asked?, h, Option.map_some]

theorem asked?_of_held {drag : Drag α} (held : p.drag = some drag) (pos : Point α) (target : τ) :
    let delta := transformedPoint target pos - drag.anchor
    p.asked? target (.move pos) = some (.shift delta, .panned delta) := by
  simp only [asked?, held]

theorem repaints_of_asked (h : p.asked? target e = some (m, done)) : done.repaints = true := by
  unfold asked? at h
  split at h
  · cases h
    rfl
  · obtain ⟨clicks, -, h⟩ := Option.map_eq_some_iff.mp h
    cases h
    rfl

theorem Zooms.carries {clicks : α} (h : Zooms p target clicks o) :
    Carries target (zoomMap (p.focus target) (p.zoomFactor clicks))
      (.zoomed (p.zoomFactor clicks) (p.focus target)) o := by
  cases h with
  | accepted ok => exact .accepted ok
  | refused error => exact .refused error

theorem Steps.asks_once (h : Steps p target e o) :
    p.asked? target e = none ∧ o.target = target ∨
      ∃ m done, p.asked? target e = some (m, done) ∧ Carries target m done o := by
  cases h with
  | pressed | cancelled => exact .inl ⟨rfl, rfl⟩
  | hovered idle | unpressed idle => exact .inl ⟨by simp [asked?, clicks?, idle], rfl⟩
  | panned held ok => exact .inr ⟨_, _, asked?_of_held held _ target, .accepted ok⟩
  | panRefused held error => exact .inr ⟨_, _, asked?_of_held held _ target, .refused error⟩
  | released held moved => exact .inl ⟨by simp [asked?, clicks?, held, moved], rfl⟩
  | clicked held still zooms =>
      exact .inr ⟨_, _, asked?_of_clicks (clicks?_up held still _ _) target, zooms.carries⟩
  | unturned still => exact .inl ⟨by simp [asked?, clicks?, still], rfl⟩
  | @turned pos delta clicks o turn zooms =>
      have hclicks : p.clicks? (.wheel pos delta) = some clicks := turn
      exact .inr ⟨_, _, asked?_of_clicks hclicks target, zooms.carries⟩
  | zoomed zooms => exact .inr ⟨_, _, asked?_of_clicks rfl target, zooms.carries⟩

/-- An event asks for at most one map, and for a repaint if that map was accepted. -/
theorem Steps.calls {t : Traced τ α} {o : Outcome (Traced τ α) α} (h : Steps p t e o) :
    ∃ ms : List (Affine α), ms.length ≤ 1 ∧
      o.target.calls = t.calls ++ ms.map .apply ++
        if o.response.repaints then [.redraw] else [] := by
  cases repaints : o.response.repaints with
  | true =>
      obtain ⟨m, t', ok, htarget⟩ := h.target_of_repaints repaints
      refine ⟨[m], Nat.le_refl 1, ?_⟩
      rw [htarget]
      exact congrArg (· ++ [.redraw]) (calls_of_apply ok)
  | false =>
      rcases h.target_of_silent repaints with same | ⟨m, e, refused⟩
      · exact ⟨[], Nat.zero_le 1, by simp [same]⟩
      · exact ⟨[m], Nat.le_refl 1, by simp [calls_of_apply refused]⟩

theorem Zooms.response_ne_ignored {clicks : α} {o : Outcome τ α} (h : Zooms p target clicks o) :
    o.response ≠ .ignored := by
  cases h with
  | accepted ok => nofun
  | refused error => nofun

theorem Steps.ignored_iff {o : Outcome τ α} (h : Steps p target e o) :
    o.response = .ignored ↔ p.inert e = true := by
  cases h with
  | pressed => simp [inert]
  | hovered idle | unpressed idle => simp [inert, isDragging, idle]
  | panned held | panRefused held | released held => simp [inert, isDragging, held]
  | clicked held still zooms => simp [inert, isDragging, held, zooms.response_ne_ignored]
  | unturned still => simp [inert_wheel_iff, still]
  | turned turn zooms => simp [inert_wheel_iff, turn, zooms.response_ne_ignored]
  | zoomed zooms => simp [inert, zooms.response_ne_ignored]
  | cancelled => cases dragging : p.isDragging <;> simp [inert, dragging]

theorem asked?_of_inert (inert : p.inert e = true) (target : τ) : p.asked? target e = none := by
  cases e with
  | move | up | cancel =>
      have idle : p.drag = none := by simpa [Pointer.inert, isDragging] using inert
      simp [asked?, clicks?, idle]
  | wheel pos delta => simp [asked?, clicks?, (p.inert_wheel_iff pos delta).mp inert]
  | down | zoom => cases inert

theorem Steps.target_of_unasked (h : Steps p target e o) (unasked : p.asked? target e = none) :
    o.target = target := by
  rcases h.asks_once with ⟨_, same⟩ | ⟨m, done, asked, _⟩
  · exact same
  · cases unasked.symm.trans asked

theorem Steps.carries (h : Steps p target e o) (asked : p.asked? target e = some (m, done)) :
    Carries target m done o := by
  rcases h.asks_once with ⟨unasked, _⟩ | ⟨m', done', asked', carries⟩
  · cases unasked.symm.trans asked
  · cases asked'.symm.trans asked
    exact carries

end Pointer

end GraphLens
