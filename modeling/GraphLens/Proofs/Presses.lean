import Mathlib.Data.List.Induction
import GraphLens.Proofs.ExactScalar
import GraphLens.Proofs.PaneSteps
import GraphLens.Proofs.PointerCalls
import GraphLens.Surface.Recording

namespace GraphLens

open PanZoomTarget

/-- A map that is refused leaves the target as it was. -/
def RefusesUnchanged (τ : Type) {α : Type} [PanZoomTarget τ α] : Prop :=
  ∀ (target target' : τ) (m : Affine α) (e : DegenerateError α),
    apply target m = (.error e, target') → target' = target

theorem Viewport.refusesUnchanged {σ α ι : Type} [Scalar α] [DrawingSurface σ α ι] :
    RefusesUnchanged (Viewport σ α ι) := fun _ _ _ _ h => eq_of_apply_eq_error h

theorem ok_of_isOk {α : Type} {r : Except (DegenerateError α) Unit} (h : r.isOk = true) :
    r = .ok () := by
  cases r with
  | error e => cases h
  | ok => rfl

theorem exists_error_of_not_isOk {α : Type} {r : Except (DegenerateError α) Unit}
    (h : r.isOk = false) : ∃ e, r = .error e := by
  cases r with
  | error e => exact ⟨e, rfl⟩
  | ok => cases h

namespace Pointer

inductive Input (α : Type) where
  | event (event : Event α)
  | setConfig (config : PanZoomConfig α)

namespace Input

variable {α : Type}

def presses : Input α → Bool
  | .event (.down _) => true
  | _ => false

def releases : Input α → Bool
  | .event (.up _ _) | .event .cancel => true
  | _ => false

def position? : Input α → Option (Point α)
  | .event e => e.position?
  | .setConfig _ => none

def leaves [Scalar α] (press : Point α) : Input α → Bool
  | .event (.move pos) => pos != press
  | _ => false

end Input

variable {τ α : Type} [Scalar α] [PanZoomTarget τ α] {p : Pointer α} {target : τ} {e : Event α}

theorem Steps.isDragging {o : Outcome τ α} (h : Steps p target e o) :
    o.pointer.isDragging =
      ((Input.event e).presses || p.isDragging && !(Input.event e).releases) := by
  cases h with
  | pressed => rfl
  | hovered idle | unpressed idle => simp [Pointer.isDragging, Input.presses, idle]
  | panned held | panRefused held =>
      simp [Pointer.isDragging, Input.presses, Input.releases, held]
  | released held => simp [Pointer.isDragging, Input.presses, Input.releases]
  | clicked held still zooms =>
      simp [zooms.pointer, Pointer.isDragging, Input.presses, Input.releases]
  | unturned => simp [Pointer.isDragging, Input.presses, Input.releases]
  | turned turn zooms | zoomed zooms =>
      simp [zooms.pointer, Pointer.isDragging, Input.presses, Input.releases]
  | cancelled => simp [Pointer.isDragging, Input.presses, Input.releases]

theorem Steps.lastPosition {o : Outcome τ α} (h : Steps p target e o) :
    o.pointer.lastPosition = (Input.event e).position?.getD p.lastPosition := by
  cases h with
  | clicked held still zooms => rw [zooms.pointer]; rfl
  | turned turn zooms | zoomed zooms => rw [zooms.pointer]; rfl
  | pressed | hovered | panned | panRefused | unpressed | released | unturned | cancelled => rfl

theorem Steps.pointer_of_up {pos : Point α} {modifiers : Modifiers} {o : Outcome τ α}
    (h : Steps p target (.up pos modifiers) o) : o.pointer = ⟨p.config, pos, none⟩ := by
  cases h with
  | unpressed | released => rfl
  | clicked held still zooms => exact zooms.pointer

def Event.zooms : Event α → Bool
  | .wheel _ _ | .zoom _ => true
  | .down _ | .move _ | .up _ _ | .cancel => false

theorem Steps.drag_of_zooms {o : Outcome τ α} (h : Steps p target e o) (he : e.zooms = true) :
    o.pointer.drag = p.drag := by
  cases h with
  | unturned => rfl
  | turned turn zooms | zoomed zooms => rw [zooms.pointer]
  | pressed | hovered | panned | panRefused | unpressed | released | clicked | cancelled => cases he

/-- The answer is the end of a press: it was a drag, it was given up, or it was a click. -/
def Event.ends : Event α → Response α → Bool
  | _, .released | _, .cancelled => true
  | .up _ _, .zoomed _ _ | .up _ _, .rejected => true
  | _, _ => false

theorem Steps.ends_eq {o : Outcome τ α} (h : Steps p target e o) :
    e.ends o.response = (p.isDragging && (Input.event e).releases) := by
  have zooms_ends {clicks : α} {p : Pointer α} {pos : Point α} {modifiers : Modifiers}
      (zooms : Zooms p target clicks o) : (Event.up pos modifiers).ends o.response = true := by
    cases zooms <;> rfl
  cases h with
  | pressed | panned | panRefused | unturned => simp [Event.ends, Input.releases]
  | hovered idle | unpressed idle => simp [Event.ends, Pointer.isDragging, idle]
  | released held => simp [Event.ends, Input.releases, Pointer.isDragging, held]
  | clicked held still zooms => simp [zooms_ends zooms, Input.releases, Pointer.isDragging, held]
  | turned turn zooms | zoomed zooms => cases zooms <;> simp [Event.ends, Input.releases]
  | cancelled => cases dragging : p.isDragging <;> simp [Event.ends, Input.releases]

def Event.panned : Event α → Response α → List (Point α)
  | .move pos, .panned _ => [pos]
  | _, _ => []

theorem Steps.drag_of_unended {o : Outcome τ α} {drag : Drag α} (h : Steps p target e o)
    (unpressed : (Input.event e).presses = false) (unreleased : (Input.event e).releases = false)
    (held : p.drag = some drag) :
    ∃ drag', o.pointer.drag = some drag' ∧ drag'.press = drag.press ∧
      drag'.moved = (drag.moved || (e.panned o.response).any (· != drag.press)) := by
  have same : drag.moved = (drag.moved || false) := (Bool.or_false _).symm
  cases h with
  | pressed => cases unpressed
  | hovered idle => simp [held] at idle
  | panned held' ok =>
      obtain rfl := Option.some.inj (held.symm.trans held')
      exact ⟨_, rfl, rfl, by simp [Event.panned, Drag.update]⟩
  | panRefused held' error =>
      obtain rfl := Option.some.inj (held.symm.trans held')
      exact ⟨drag, rfl, rfl, same⟩
  | unpressed | released | clicked | cancelled => cases unreleased
  | unturned still => exact ⟨drag, held, rfl, same⟩
  | turned turn zooms | zoomed zooms => exact ⟨drag, by rw [zooms.pointer, held], rfl, same⟩

theorem Steps.any_panned_of_accepted {o : Outcome τ α} {drag : Drag α} (h : Steps p target e o)
    (held : p.drag = some drag) (accepted : ∀ pos, e = .move pos → o.response ≠ .rejected)
    (press : Point α) :
    (e.panned o.response).any (· != press) = (Input.event e).leaves press := by
  cases h with
  | hovered idle => simp [held] at idle
  | panned held' ok => exact Bool.or_false _
  | panRefused held' error => exact absurd rfl (accepted _ rfl)
  | pressed | unpressed | released | clicked | unturned | turned | zoomed | cancelled => rfl

structure Scene (τ α : Type) where
  pointer : Pointer α
  target : τ

namespace Scene

def new (config : PanZoomConfig α) (target : τ) : Scene τ α := ⟨.ofConfig config, target⟩

def outcome (s : Scene τ α) (e : Event α) : Outcome τ α := s.pointer.handle s.target e

def after (s : Scene τ α) : Input α → Scene τ α
  | .event e => ⟨(s.outcome e).pointer, (s.outcome e).target⟩
  | .setConfig config => { s with pointer := { s.pointer with config } }

def run (s : Scene τ α) (log : List (Input α)) : Scene τ α := log.foldl after s

theorem run_concat (s : Scene τ α) (log : List (Input α)) (i : Input α) :
    s.run (log ++ [i]) = (s.run log).after i := by
  rw [run, List.foldl_append]
  rfl

/-- The same handling of an event, with a list of what is asked of the target. -/
def traced (s : Scene τ α) (e : Event α) : Outcome (Traced τ α) α :=
  s.pointer.handle ⟨s.target, []⟩ e

def endings (s : Scene τ α) : Input α → List (Response α)
  | .event e => if e.ends (s.outcome e).response then [(s.outcome e).response] else []
  | .setConfig _ => []

def refusedMoves (s : Scene τ α) : Input α → List (Point α)
  | .event (.move pos) =>
    match (s.outcome (.move pos)).response with
    | .rejected => [pos]
    | _ => []
  | _ => []

def pannedMoves (s : Scene τ α) : Input α → List (Point α)
  | .event e => e.panned (s.outcome e).response
  | .setConfig _ => []

theorem steps_outcome (s : Scene τ α) (e : Event α) :
    Steps s.pointer s.target e (s.outcome e) := s.pointer.steps_handle s.target e

theorem isDragging_after (s : Scene τ α) (i : Input α) :
    (s.after i).pointer.isDragging = (i.presses || s.pointer.isDragging && !i.releases) := by
  cases i with
  | event e => exact (s.steps_outcome e).isDragging
  | setConfig config => exact (Bool.and_true _).symm

theorem lastPosition_after (s : Scene τ α) (i : Input α) :
    (s.after i).pointer.lastPosition = i.position?.getD s.pointer.lastPosition := by
  cases i with
  | event e => exact (s.steps_outcome e).lastPosition
  | setConfig config => rfl

theorem isDragging_run_iff (config : PanZoomConfig α) (target : τ) (log : List (Input α)) :
    ((new config target).run log).pointer.isDragging = true ↔
      ∃ before i rest, log = before ++ i :: rest ∧ i.presses = true ∧
        ∀ k ∈ rest, ¬k.releases = true := by
  induction log using List.reverseRecOn with
  | nil => simp [run, new, ofConfig, Pointer.isDragging]
  | append_singleton log i ih =>
      rw [run_concat, isDragging_after, exists_split_concat_iff, ← ih]
      simp

theorem lastPosition_run (s : Scene τ α) (log : List (Input α)) :
    (s.run log).pointer.lastPosition =
      (log.filterMap Input.position?).getLastD s.pointer.lastPosition :=
  foldl_eq_getLastD (·.pointer.lastPosition) lastPosition_after s log

theorem length_endings (s : Scene τ α) (i : Input α) :
    (s.endings i).length = (s.pointer.isDragging && i.releases).toNat := by
  cases i with
  | event e =>
      rw [endings, (s.steps_outcome e).ends_eq]
      cases s.pointer.isDragging && (Input.event e).releases <;> rfl
  | setConfig config => simp [endings, Input.releases]

theorem length_endings_run (s : Scene τ α) {log : List (Input α)}
    (unpressed : ∀ i ∈ log, i.presses = false) :
    (observed after endings s log).length + (s.run log).pointer.isDragging.toNat =
      s.pointer.isDragging.toNat := by
  induction log generalizing s with
  | nil => exact Nat.zero_add _
  | cons i log ih =>
      obtain ⟨hi, unpressed⟩ := List.forall_mem_cons.mp unpressed
      have hlog := ih (s.after i) unpressed
      rw [isDragging_after, hi, Bool.false_or] at hlog
      rw [observed, List.length_append, length_endings, Nat.add_assoc]
      refine (congrArg _ hlog).trans ?_
      cases s.pointer.isDragging <;> cases i.releases <;> rfl

/-- A press at `press` goes on, and the pointer has left that place or not. -/
def Holds (press : Point α) (moved : Bool) (s : Scene τ α) : Prop :=
  ∃ drag, s.pointer.drag = some drag ∧ drag.press = press ∧ drag.moved = moved

theorem Holds.after {press : Point α} {moved : Bool} {s : Scene τ α} {i : Input α}
    (h : Holds press moved s) (unpressed : i.presses = false) (unreleased : i.releases = false) :
    Holds press (moved || (s.pannedMoves i).any (· != press)) (s.after i) := by
  obtain ⟨drag, held, rfl, rfl⟩ := h
  cases i with
  | setConfig config => exact ⟨drag, held, rfl, (Bool.or_false _).symm⟩
  | event e => exact (s.steps_outcome e).drag_of_unended unpressed unreleased held

theorem Holds.during {press : Point α} {moved : Bool} {s : Scene τ α} {log : List (Input α)}
    (h : Holds press moved s) (during : ∀ i ∈ log, i.presses = false ∧ i.releases = false) :
    Holds press (moved || (observed Scene.after pannedMoves s log).any (· != press))
      (s.run log) := by
  induction log generalizing s moved with
  | nil => rwa [observed, List.any_nil, Bool.or_false]
  | cons i log ih =>
      obtain ⟨hi, during⟩ := List.forall_mem_cons.mp during
      rw [observed, List.any_append, ← Bool.or_assoc]
      exact ih (h.after hi.1 hi.2) during

theorem Holds.any_pannedMoves {press : Point α} {moved : Bool} {s : Scene τ α} {i : Input α}
    (h : Holds press moved s) (accepted : s.refusedMoves i = []) :
    (s.pannedMoves i).any (· != press) = i.leaves press := by
  obtain ⟨drag, held, rfl, rfl⟩ := h
  cases i with
  | setConfig config => rfl
  | event e =>
      refine (s.steps_outcome e).any_panned_of_accepted held ?_ _
      rintro pos rfl rejected
      simp [refusedMoves, rejected] at accepted

theorem Holds.run {press : Point α} {moved : Bool} {s : Scene τ α} {log : List (Input α)}
    (h : Holds press moved s) (during : ∀ i ∈ log, i.presses = false ∧ i.releases = false)
    (accepted : observed Scene.after refusedMoves s log = []) :
    Holds press (moved || log.any (Input.leaves press)) (s.run log) := by
  induction log generalizing s moved with
  | nil => rwa [List.any_nil, Bool.or_false]
  | cons i log ih =>
      obtain ⟨hi, during⟩ := List.forall_mem_cons.mp during
      obtain ⟨acceptedNow, accepted⟩ := List.append_eq_nil_iff.mp accepted
      rw [List.any_cons, ← Bool.or_assoc, ← h.any_pannedMoves acceptedNow]
      exact ih (h.after hi.1 hi.2) during accepted

theorem Holds.outcome_up {press : Point α} {moved : Bool} {s : Scene τ α}
    (h : Holds press moved s) (pos : Point α) (modifiers : Modifiers) :
    let idle : Pointer α := ⟨s.pointer.config, pos, none⟩
    s.outcome (.up pos modifiers) =
      if moved then ⟨idle, s.target, .released, [.dragEnded]⟩
      else idle.zoom s.target (s.pointer.clickClicks modifiers) := by
  obtain ⟨drag, held, rfl, rfl⟩ := h
  cases moved : drag.moved <;> simp [outcome, handle, up, held, Drag.isClick, moved, clickClicks]

omit [PanZoomTarget τ α] in
theorem Holds.clicks?_up {press : Point α} {moved : Bool} {s : Scene τ α}
    (h : Holds press moved s) (pos : Point α) (modifiers : Modifiers) :
    s.pointer.clicks? (.up pos modifiers) =
      if moved then none else some (s.pointer.clickClicks modifiers) := by
  obtain ⟨drag, held, rfl, rfl⟩ := h
  cases moved : drag.moved <;> simp [clicks?, held, Drag.isClick, moved]

/-- The event asks for the one map `m`. If it is accepted, which the answer `done` tells, the
target is painted anew, and if not, it is as before. -/
structure Asks (s : Scene τ α) (e : Event α) (m : Affine α) (done : Response α) : Prop where
  answered_iff : (s.outcome e).response = done ↔ (apply s.target m).1 = .ok ()
  rejected_iff :
    (s.outcome e).response = .rejected ↔ ∃ error, (apply s.target m).1 = .error error
  accepted : (apply s.target m).1 = .ok () → (s.traced e).target.calls = [.apply m, .redraw] ∧
    (s.outcome e).target = redraw (apply s.target m).2
  refused : ∀ error, (apply s.target m).1 = .error error →
    (s.traced e).target.calls = [.apply m] ∧ (s.outcome e).target = s.target

theorem map_traced (s : Scene τ α) (e : Event α) :
    (s.traced e).map Traced.target = s.outcome e :=
  (handle_map unnoticed_traced s.pointer ⟨s.target, []⟩ e).symm

theorem asks (unchanged : RefusesUnchanged τ) {s : Scene τ α} {e : Event α} {m : Affine α}
    {done : Response α} (asked : s.pointer.asked? s.target e = some (m, done)) :
    s.Asks e m done := by
  have hne : done ≠ .rejected := by
    rintro rfl
    cases repaints_of_asked asked
  have carries := (s.steps_outcome e).carries asked
  have traced : Carries ⟨s.target, []⟩ m done (s.traced e) := (steps_handle _ _ _).carries asked
  refine ⟨carries.answered_iff hne, carries.rejected_iff hne, fun ok => ?_, fun error refused => ?_⟩
  · exact ⟨congrArg Traced.calls (traced.target_of_ok ok), carries.target_of_ok ok⟩
  · have same : (apply s.target m).2 = s.target := unchanged _ _ m error (Prod.ext refused rfl)
    exact ⟨congrArg Traced.calls (traced.target_of_error refused),
      (carries.target_of_error refused).trans same⟩

/-- What holds of the handling of an event in any scene. -/
structure Handles (s : Scene τ α) (e : Event α) : Prop where
  traced : (s.traced e).map Traced.target = s.outcome e
  calls : ∃ ms : List (Affine α), ms.length ≤ 1 ∧ (s.traced e).target.calls =
    ms.map .apply ++ if (s.outcome e).response.repaints then [.redraw] else []
  asks : ∀ m done, s.pointer.asked? s.target e = some (m, done) → s.Asks e m done
  unasked : s.pointer.asked? s.target e = none → (s.traced e).target.calls = []
  ignored : (s.outcome e).response = .ignored ↔ s.pointer.inert e = true
  inert : s.pointer.inert e = true → (s.traced e).target.calls = []
  target : (s.outcome e).response.repaints = false → (s.outcome e).target = s.target
  drag : e.zooms = true → (s.outcome e).pointer.drag = s.pointer.drag

theorem handles (unchanged : RefusesUnchanged τ) (s : Scene τ α) (e : Event α) : s.Handles e := by
  have hsteps := s.steps_outcome e
  have htraced : Steps s.pointer ⟨s.target, []⟩ e (s.traced e) := steps_handle _ _ _
  have hunasked (unasked : s.pointer.asked? s.target e = none) :
      (s.traced e).target.calls = [] := congrArg _ (htraced.target_of_unasked unasked)
  refine ⟨s.map_traced e, ?_, fun m done => s.asks unchanged, hunasked, hsteps.ignored_iff,
    fun inert => hunasked (asked?_of_inert inert s.target), ?_, hsteps.drag_of_zooms⟩
  · rw [← s.map_traced e]
    exact htraced.calls
  · intro silent
    rcases hsteps.target_of_silent silent with same | ⟨m, error, refused⟩
    · exact same
    · exact unchanged _ _ m error refused

/-- Whatever is panned and zoomed, as long as a map that it refuses leaves it alone: a press is
held from when the pointer goes down until it goes up or is cancelled, and the place known last is
that of the last event that had one. An event asks the target for at most one map, that of its pan
or of its zoom, and for a repaint exactly if that map is accepted, which its answer tells;
otherwise the target stays as it was, and an event without anything to do is ignored. The wheel
leaves a press alone. A press ends once, if it ends at all; if none of its moves was refused, its
end is a click exactly if the pointer never left, and a click asks for a zoom about its place, with
the shift key outwards. -/
theorem press_is_held_until_it_ends (unchanged : RefusesUnchanged τ) (config : PanZoomConfig α)
    (target : τ) (log : List (Input α)) :
    let s := (new config target).run log
    (s.pointer.isDragging = true ↔
      ∃ before i rest, log = before ++ i :: rest ∧ i.presses = true ∧
        ∀ k ∈ rest, ¬k.releases = true) ∧
    s.pointer.lastPosition = (log.filterMap Input.position?).getLastD .origin ∧
    (∀ e, s.Handles e) ∧
    ∀ press during, (∀ i ∈ during, i.presses = false) →
      let pressed := s.after (.event (.down press))
      let now := pressed.run during
      (observed Scene.after endings pressed during).length =
        (if now.pointer.isDragging then 0 else 1) ∧
      ((∀ i ∈ during, i.releases = false) →
        observed Scene.after refusedMoves pressed during = [] →
        ∀ pos modifiers,
          let o := now.outcome (.up pos modifiers)
          let focus := transformedPoint now.target pos
          let factor := Scalar.pow now.pointer.config.scaleFactor
            ((if modifiers.contains .shiftKey then -1 else 1) * now.pointer.config.clickZoomClicks)
          o.pointer = ⟨now.pointer.config, pos, none⟩ ∧
          (during.any (Input.leaves press) = true → o.response = .released ∧
            o.target = now.target ∧ (now.traced (.up pos modifiers)).target.calls = []) ∧
          (during.any (Input.leaves press) = false →
            now.Asks (.up pos modifiers) (zoomMap focus factor) (.zoomed factor focus))) := by
  intro s
  refine ⟨isDragging_run_iff config target log, lastPosition_run _ log, handles unchanged s, ?_⟩
  intro press during unpressed pressed now
  refine ⟨?_, ?_⟩
  · have hlength : _ + now.pointer.isDragging.toNat = 1 := length_endings_run pressed unpressed
    cases dragging : now.pointer.isDragging <;> rw [dragging] at hlength
    · exact hlength
    · exact Nat.succ.inj hlength
  · intro unreleased accepted pos modifiers o focus factor
    have held : Holds press false pressed := ⟨_, rfl, rfl, rfl⟩
    have hnow : Holds press _ now :=
      held.run (fun i hi => ⟨unpressed i hi, unreleased i hi⟩) accepted
    rw [Bool.false_or] at hnow
    have hclicks := hnow.clicks?_up pos modifiers
    refine ⟨(now.steps_outcome _).pointer_of_up, fun left => ?_, fun stayed => ?_⟩
    · have ho : o = _ := hnow.outcome_up pos modifiers
      rw [left, if_pos rfl] at ho hclicks
      have unasked : now.pointer.asked? now.target (.up pos modifiers) = none := by
        simp only [asked?, hclicks, Option.map_none]
      exact ⟨congrArg (·.response) ho, congrArg (·.target) ho,
        (handles unchanged now _).unasked unasked⟩
    · rw [stayed, if_neg Bool.false_ne_true] at hclicks
      exact asks unchanged (asked?_of_clicks hclicks now.target)

theorem return_to_the_press_is_no_click :
    let target : Viewport (RecordingSurface ℚ) ℚ (ImageHandle ℚ) := .ofSurface (.ofSize ⟨640, 480⟩)
    let log : List (Input ℚ) := [.event (.down ⟨1, 2⟩), .event .cancel]
    let pressed := ((new ⟨10, 40, 1⟩ target).run log).after (.event (.down ⟨3, 4⟩))
    let returning : List (Input ℚ) :=
      [.event (.move ⟨5, 5⟩), .event (.wheel ⟨0, 0⟩ 0), .event (.move ⟨3, 4⟩)]
    let resting (clicks : ℚ) : List (Input ℚ) := [.setConfig ⟨10, 40, clicks⟩]
    let up : Event ℚ := .up ⟨3, 4⟩ .shiftKey
    let returned := pressed.run returning
    let rested (clicks : ℚ) := pressed.run (resting clicks)
    RefusesUnchanged (Viewport (RecordingSurface ℚ) ℚ (ImageHandle ℚ)) ∧
    ((∀ i ∈ returning, i.presses = false) ∧ (∀ i ∈ returning, i.releases = false) ∧
      observed Scene.after refusedMoves pressed returning = []) ∧
    (returned.outcome up).response = .released ∧ (returned.traced up).target.calls = [] ∧
    (∀ clicks, (∀ i ∈ resting clicks, i.presses = false) ∧
      (∀ i ∈ resting clicks, i.releases = false) ∧
      observed Scene.after refusedMoves pressed (resting clicks) = []) ∧
    ((rested 2).outcome up).response = .zoomed (1 / 100) ⟨3, 4⟩ ∧
    ((rested 2).traced up).target.calls = [.apply (zoomMap ⟨3, 4⟩ (1 / 100)), .redraw] ∧
    ((rested 7).outcome up).response = .rejected ∧
    ((rested 7).traced up).target.calls = [.apply (zoomMap ⟨3, 4⟩ (1 / 10000000))] := by
  intro target log pressed returning resting up returned rested
  have ends := (press_is_held_until_it_ends Viewport.refusesUnchanged ⟨10, 40, 1⟩ target log).2.2.2
    ⟨3, 4⟩
  have unpressed : ∀ i ∈ returning, i.presses = false := by simp [returning, Input.presses]
  have unreleased : ∀ i ∈ returning, i.releases = false := by simp [returning, Input.releases]
  have accepted : observed Scene.after refusedMoves pressed returning = [] := by decide +kernel
  have left : returning.any (Input.leaves ⟨3, 4⟩) = true := by decide +kernel
  obtain ⟨-, released, -⟩ := (ends returning unpressed).2 unreleased accepted ⟨3, 4⟩ .shiftKey
  have rests (clicks : ℚ) : (∀ i ∈ resting clicks, i.presses = false) ∧
      (∀ i ∈ resting clicks, i.releases = false) ∧
      observed Scene.after refusedMoves pressed (resting clicks) = [] := by
    simp [resting, Input.presses, Input.releases, observed, refusedMoves]
  have focus : transformedPoint pressed.target ⟨3, 4⟩ = ⟨3, 4⟩ :=
    congrArg₂ Point.mk (by decide +kernel) (by decide +kernel)
  have asks {clicks factor : ℚ} (h : Scalar.pow (10 : ℚ) (-1 * clicks) = factor) :
      (rested clicks).Asks up (zoomMap ⟨3, 4⟩ factor) (.zoomed factor ⟨3, 4⟩) := by
    obtain ⟨unpressed, unreleased, accepted⟩ := rests clicks
    obtain ⟨-, -, click⟩ := (ends _ unpressed).2 unreleased accepted ⟨3, 4⟩ .shiftKey
    rw [← h, ← focus]
    exact click rfl
  have zooms : (rested 2).Asks up (zoomMap ⟨3, 4⟩ (1 / 100)) (.zoomed (1 / 100) ⟨3, 4⟩) :=
    asks (by decide +kernel)
  have fails : (rested 7).Asks up (zoomMap ⟨3, 4⟩ (1 / 10000000))
      (.zoomed (1 / 10000000) ⟨3, 4⟩) := asks (by decide +kernel)
  have ok : (apply (rested 2).target (zoomMap ⟨3, 4⟩ (1 / 100))).1 = .ok () :=
    ok_of_isOk (by decide +kernel)
  obtain ⟨error, refused⟩ :
      ∃ error, (apply (rested 7).target (zoomMap ⟨3, 4⟩ (1 / 10000000))).1 = .error error :=
    exists_error_of_not_isOk (by decide +kernel)
  exact ⟨Viewport.refusesUnchanged, ⟨unpressed, unreleased, accepted⟩, (released left).1,
    (released left).2.2, rests, zooms.answered_iff.mpr ok, (zooms.accepted ok).1,
    fails.rejected_iff.mpr ⟨error, refused⟩, (fails.refused error refused).1⟩

end Scene

end Pointer

end GraphLens
