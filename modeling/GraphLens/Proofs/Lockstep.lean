import GraphLens.Proofs.TrackerSteps
import GraphLens.Surface.Recording

namespace GraphLens

open RecordingSurface

variable {α : Type} [Scalar α]

namespace RecordingSurface

@[simp] theorem perform_state (s : RecordingSurface α) (call : Surface.Call α (ImageHandle α)) :
    (DrawingSurface.perform s call).state = (s.advance call).state := rfl

@[simp] theorem perform_stack (s : RecordingSurface α) (call : Surface.Call α (ImageHandle α)) :
    (DrawingSurface.perform s call).stack = (s.advance call).stack := rfl

theorem events_advance (s : RecordingSurface α) (call : Surface.Call α (ImageHandle α)) :
    (s.advance call).events = s.events := by
  obtain ⟨size, state, stack, events⟩ := s
  cases call with
  | restore => cases stack <;> rfl
  | save | translate | scale | rotate | transform | setTransform | clearRect | drawImage => rfl

theorem events_perform (s : RecordingSurface α) (call : Surface.Call α (ImageHandle α)) :
    (DrawingSurface.perform s call).events.toList =
      s.events.toList ++ [⟨call, (s.advance call).state⟩] := by
  change ((s.advance call).events.push _).toList = _
  rw [Array.toList_push, events_advance]

def recorded (s : RecordingSurface α) : List (Surface.Call α (ImageHandle α)) :=
  s.events.toList.map (·.call)

theorem recorded_perform (s : RecordingSurface α) (call : Surface.Call α (ImageHandle α)) :
    (DrawingSurface.perform s call).recorded = s.recorded ++ [call] := by
  rw [recorded, events_perform, List.map_append]
  rfl

theorem advance_of_checked {s : RecordingSurface α} {op : Tracker.Op α (ImageHandle α)}
    {m : Affine α} (h : op.checked? s.state.transform = some m) :
    s.advance op.call = s.withTransform m := by
  cases op <;> cases h <;> rfl

theorem advance_of_isDraw {s : RecordingSurface α} {call : Surface.Call α (ImageHandle α)}
    (h : call.isDraw = true) : s.advance call = s := by
  cases call <;> first | rfl | cases h

end RecordingSurface

namespace Tracker

/-- The surface has the transform of the tracker, and above `base` those that the tracker saved. -/
structure Lockstep (base : List (Snapshot α)) (t : Tracker (RecordingSurface α) α) : Prop where
  transform : t.surface.state.transform = t.current.forward
  saved : ∃ top, t.surface.stack = top ++ base ∧
    top.map (·.transform) = t.stack.map (·.forward)

theorem lockstep_ofSurface (s : RecordingSurface α) : Lockstep s.stack (ofSurface s) where
  transform := rfl
  saved := ⟨[], rfl, rfl⟩

theorem Lockstep.step {base : List (Snapshot α)} {t t' : Tracker (RecordingSurface α) α}
    {op : Op α (ImageHandle α)} (h : Lockstep base t) (hs : t.Steps op t') : Lockstep base t' := by
  obtain ⟨top, hstack, htop⟩ := h.saved
  cases hs with
  | saved =>
      refine ⟨h.transform, t.surface.state :: top, ?_, ?_⟩
      · simp [RecordingSurface.advance, hstack]
      · simp [htop, h.transform]
  | unmatched empty => exact h
  | restored held =>
      rw [held] at htop
      obtain ⟨snapshot, rest, rfl, hsnapshot, hrest⟩ := List.map_eq_cons_iff.mp htop
      have hadvance : (t.surface.advance (.restore : Surface.Call α (ImageHandle α))) =
          { t.surface with
            stack := rest ++ base
            state := { snapshot with depth := depthOf (rest ++ base) } } := by
        simp [RecordingSurface.advance, hstack]
      exact ⟨by simp [hadvance, hsnapshot], rest, by simp [hadvance], hrest⟩
  | installed checked sound =>
      rw [← h.transform] at checked
      have hadvance := advance_of_checked checked
      refine ⟨?_, top, ?_, htop⟩
      · rw [perform_state, hadvance, Transform.forward_of_ofAffine sound]
        rfl
      · rw [perform_stack, hadvance]
        exact hstack
  | reset => exact ⟨rfl, top, hstack, htop⟩
  | drawn draws =>
      have hadvance := advance_of_isDraw (s := t.surface) draws
      exact ⟨by simp [hadvance, h.transform], top, by simp [hadvance, hstack], htop⟩

theorem recorded_run (t : Tracker (RecordingSurface α) α) (ops : List (Op α (ImageHandle α))) :
    (t.run ops).surface.recorded = t.surface.recorded ++ t.calls ops := by
  induction ops generalizing t with
  | nil => exact (List.append_nil _).symm
  | cons op ops ih =>
      refine (ih (t.after op)).trans ?_
      by_cases silent : t.notices op = []
      · rw [surface_after_of_silent silent, recorded_perform]
        simp [calls, silent]
      · rw [calls, after_of_reported silent]
        simp [silent]

/-- After any requests to a tracker over any surface, on machine numbers as well, the surface has
the transform of the tracker, its newest entries are the transforms saved by the tracker, and
below them are the entries it had before. A request that is refused changes nothing, and neither
it nor an unmatched restore is on the record of the surface. -/
theorem surface_follows_tracker (s : RecordingSurface α) (ops : List (Op α (ImageHandle α))) :
    let t := (ofSurface s).run ops
    t.surface.state.transform = t.current.forward ∧
    (t.surface.stack.take t.depth).map (·.transform) = t.stack.map (·.forward) ∧
    t.surface.stack.drop t.depth = s.stack ∧
    t.surface.recorded = s.recorded ++ .setTransform .identity :: (ofSurface s).calls ops ∧
    ∀ op e, (t.serve op).1 = .error e → t.after op = t := by
  intro t
  have h : Lockstep s.stack t := run_induction (lockstep_ofSurface s) Lockstep.step ops
  obtain ⟨top, hstack, htop⟩ := h.saved
  have hdepth : t.depth = top.length := by
    simpa [depth] using (congrArg List.length htop).symm
  refine ⟨h.transform, ?_, ?_, ?_, ?_⟩
  · rw [hstack, hdepth, List.take_left, htop]
  · rw [hstack, hdepth, List.drop_left]
  · rw [recorded_run, ofSurface, draw, recorded_perform, List.append_assoc, List.singleton_append]
  · intro op e refused
    exact eq_of_serve_eq_error (Prod.ext refused rfl)

end Tracker

end GraphLens
