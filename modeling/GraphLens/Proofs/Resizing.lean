import GraphLens.Proofs.Frames
import GraphLens.Proofs.Invertibility

namespace GraphLens

open RecordingSurface

namespace Tracker

section

variable {α : Type} [Scalar α] {t : Tracker (RecordingSurface α) α}

/-- The surface has the transform that the tracker takes it to have. -/
def Agrees (t : Tracker (RecordingSurface α) α) : Prop :=
  t.surface.state.transform = t.current.forward

theorem Lockstep.of_restore {base stack : List (Snapshot α)} {snapshot : Snapshot α}
    {saved : Transform α} {rest : List (Transform α)} (top : t.stack = saved :: rest)
    (held : t.surface.stack = snapshot :: stack) (agrees : t.Agrees)
    (h : Lockstep base (t.after .restore)) : Lockstep base t := by
  rw [after_restore top] at h
  obtain ⟨htransform, kept, hstack, hkept⟩ := h
  simp only [perform_state, perform_stack, RecordingSurface.advance, held] at htransform hstack
  refine ⟨agrees, snapshot :: kept, ?_, ?_⟩
  · rw [held, hstack, List.cons_append]
  · rw [top, List.map_cons, List.map_cons, htransform, hkept]

theorem eq_saved_of_agrees {saved : Transform α} {rest : List (Transform α)} {m : Affine α}
    {next : Transform α} (top : t.stack = saved :: rest) (bare : t.surface.stack = [])
    (sound : Transform.ofAffine m = .ok next) (agrees : ∀ ops, (t.run ops).Agrees) :
    m = saved.forward := by
  have h : ((t.after (.setTransform m)).after .restore).Agrees :=
    agrees [.setTransform m, .restore]
  have hset := after_setTransform (t := t) sound
  have hrestore := after_restore (t := t.after (.setTransform m)) (by rw [hset]; exact top)
  rw [hrestore, hset] at h
  obtain ⟨⟨size, state, stack, events⟩, current, saves⟩ := t
  cases bare
  exact h

end

theorem ofAffine_identity :
    Transform.ofAffine (.identity : Affine Float) = .ok ⟨.identity, Affine.identity.inverse⟩ :=
  Transform.ofAffine_of_isSound (by decide +kernel) (by decide +kernel)

theorem ofAffine_shift_one :
    Transform.ofAffine (.shift ⟨1, 0⟩ : Affine Float) =
      .ok ⟨.shift ⟨1, 0⟩, (Affine.shift ⟨1, 0⟩).inverse⟩ :=
  Transform.ofAffine_of_isSound (by decide +kernel) (by decide +kernel)

/-- Tracker and surface agree for ever exactly if all that the tracker has saved is on the surface,
above whatever else is there. -/
theorem agrees_run_iff (t : Tracker (RecordingSurface Float) Float) :
    (∀ ops, (t.run ops).Agrees) ↔ ∃ base, Lockstep base t := by
  constructor
  · intro agrees
    induction top : t.stack generalizing t with
    | nil => exact ⟨t.surface.stack, agrees [], [], rfl, by rw [top]; rfl⟩
    | cons saved rest ih =>
        cases held : t.surface.stack with
        | nil =>
            -- Two maps cannot both be the one that was saved.
            have here := eq_saved_of_agrees top held ofAffine_identity agrees
            have aside := eq_saved_of_agrees top held ofAffine_shift_one agrees
            have offsets : (0 : Float) = 1 := congrArg Affine.e (here.trans aside.symm)
            exact absurd offsets (by decide +kernel)
        | cons snapshot stack =>
            obtain ⟨base, h⟩ := ih (t.after .restore) (fun ops => agrees (.restore :: ops))
              (by rw [after_restore top])
            exact ⟨base, .of_restore top held (agrees []) h⟩
  · rintro ⟨base, h⟩ ops
    exact (run_induction h Lockstep.step ops).transform

theorem lockstep_iff_of_bare {α : Type} [Scalar α] {t : Tracker (RecordingSurface α) α}
    (bare : t.surface.stack = []) : (∃ base, Lockstep base t) ↔ t.Agrees ∧ t.stack = [] := by
  constructor
  · rintro ⟨base, agrees, top, hstack, hsaved⟩
    obtain ⟨rfl, _⟩ := List.append_eq_nil_iff.mp (hstack.symm.trans bare)
    exact ⟨agrees, List.map_eq_nil_iff.mp hsaved.symm⟩
  · rintro ⟨agrees, unsaved⟩
    exact ⟨[], agrees, [], bare, by rw [unsaved]; rfl⟩

end Tracker

section

variable {α : Type} [Scalar α]

/-- The canvas with another size, by which its context loses its transform and all that was saved.
The record goes on. -/
def RecordingSurface.resized (s : RecordingSurface α) (size : Size α) : RecordingSurface α :=
  { ofSize size with events := s.events }

def Viewport.resized (v : Viewport (RecordingSurface α) α (ImageHandle α)) (size : Size α) :
    Viewport (RecordingSurface α) α (ImageHandle α) :=
  v.mapSurface (·.resized size)

namespace Viewport

variable (v : Viewport (RecordingSurface α) α (ImageHandle α)) (size : Size α)

theorem events_redraw_resized :
    let resized := v.resized size
    let bare : Snapshot α := ⟨.identity, 0⟩
    let aside : Snapshot α := ⟨.identity, 1⟩
    resized.redraw.events = v.events ++
      ([⟨.clearRect resized.visibleRect, bare⟩, ⟨.save, aside⟩, ⟨.setTransform .identity, aside⟩,
        ⟨.clearRect size.toRect, aside⟩, ⟨.restore, bare⟩] ++
      v.content.toList.map fun image => ⟨.drawImage image .origin, bare⟩) := by
  intro resized bare aside
  have fresh : resized.tracker.surface.DepthKept := rfl
  rw [events, surface_redraw, events_foldl, calls_paint, entries_paint fresh]
  rfl

theorem getLast?_events_redraw_resized {image : ImageHandle α} (shows : v.content = some image) :
    (v.resized size).redraw.events.getLast? =
      some ⟨.drawImage image .origin, ⟨.identity, 0⟩⟩ := by
  rw [events_redraw_resized, shows, ← List.append_assoc]
  exact List.getLast?_concat

theorem surface_redraw_resized :
    (v.resized size).redraw.tracker.surface.state = ⟨.identity, 0⟩ ∧
      (v.resized size).redraw.tracker.surface.stack = [] := by
  obtain ⟨tracker, content⟩ := v
  cases content with
  | none => exact ⟨rfl, rfl⟩
  | some image => exact ⟨rfl, rfl⟩

theorem surface_resetView_resized :
    (v.resized size).resetView.tracker.surface.state = ⟨.identity, 0⟩ ∧
      (v.resized size).resetView.tracker.surface.stack = [] := by
  obtain ⟨tracker, content⟩ := v
  cases content with
  | none => exact ⟨rfl, rfl⟩
  | some image => exact ⟨rfl, rfl⟩

theorem transforms_redraw_resized :
    (v.resized size).redraw.tracker.transforms = v.tracker.transforms :=
  (v.resized size).transforms_redraw

theorem agrees_redraw_resized_iff :
    (v.resized size).redraw.tracker.Agrees ↔ v.transform.forward = .identity := by
  have current := (List.cons.inj (v.transforms_redraw_resized size)).1
  rw [Tracker.Agrees, (v.surface_redraw_resized size).1, current, eq_comm]
  rfl

end Viewport

end

namespace Pane

def resized {α : Type} [Scalar α] (pane : Pane (RecordingSurface α) α (ImageHandle α))
    (size : Size α) : Pane (RecordingSurface α) α (ImageHandle α) :=
  { pane with viewport := pane.viewport.resized size }

theorem agrees_run_iff {pane : Pane (RecordingSurface Float) Float (ImageHandle Float)} :
    (∀ ops, (pane.run ops).viewport.tracker.Agrees) ↔
      ∃ base, Tracker.Lockstep base pane.viewport.tracker := by
  constructor
  · intro agrees
    refine (Tracker.agrees_run_iff _).mp fun ops => ?_
    rw [← tracker_run_map]
    exact agrees _
  · rintro ⟨base, h⟩ ops
    exact (run_induction h Tracker.Lockstep.step ops).transform

/-- After a canvas was given another size, which resets its context, a repaint leaves the tracked
transforms and the image as they were, and paints all of it, image included, under the identity.
Tracker and surface then agree, and go on to agree whatever is asked of the pane, exactly if the
tracked transform was the identity and nothing was saved. -/
theorem repaint_after_resize_is_under_identity
    (pane : Pane (RecordingSurface Float) Float (ImageHandle Float)) (size : Size Float) :
    let resized := pane.resized size
    let repainted := resized.after .redraw
    let bare : Snapshot Float := ⟨.identity, 0⟩
    let aside : Snapshot Float := ⟨.identity, 1⟩
    repainted.viewport.tracker.transforms = pane.viewport.tracker.transforms ∧
    repainted.viewport.content = pane.viewport.content ∧
    repainted.viewport.events = pane.viewport.events ++
      ([⟨.clearRect resized.viewport.visibleRect, bare⟩, ⟨.save, aside⟩,
        ⟨.setTransform .identity, aside⟩, ⟨.clearRect size.toRect, aside⟩, ⟨.restore, bare⟩] ++
      pane.viewport.content.toList.map fun image => ⟨.drawImage image .origin, bare⟩) ∧
    ((∀ ops, (repainted.run ops).viewport.tracker.Agrees) ↔
      pane.viewport.transform.forward = .identity ∧ pane.viewport.tracker.stack = []) := by
  intro resized repainted bare aside
  have kept : repainted.viewport.tracker.transforms = pane.viewport.tracker.transforms :=
    pane.viewport.transforms_redraw_resized size
  refine ⟨kept, Viewport.content_redraw _, Viewport.events_redraw_resized _ _, ?_⟩
  have agrees : repainted.viewport.tracker.Agrees ↔ pane.viewport.transform.forward = .identity :=
    Viewport.agrees_redraw_resized_iff _ _
  have empty : repainted.viewport.tracker.surface.stack = [] :=
    (Viewport.surface_redraw_resized _ _).2
  rw [agrees_run_iff, Tracker.lockstep_iff_of_bare empty, agrees, (List.cons.inj kept).2]

theorem enlarged_view_is_repainted_at_identity :
    let start : Pane (RecordingSurface Float) Float (ImageHandle Float) :=
      ofSurface (.ofSize ⟨800, 600⟩) .standard
    let m : Affine Float := ⟨2, 0, 0, 2, 30, 40⟩
    let image : ImageHandle Float := ⟨7, ⟨120, 80⟩⟩
    let pane := start.run [.tracker (.setTransform m), .setContent image]
    let repainted := (pane.resized ⟨1000, 700⟩).after .redraw
    repainted.viewport.transform.forward = m ∧
    repainted.viewport.events.getLast? = some ⟨.drawImage image .origin, ⟨.identity, 0⟩⟩ ∧
    ¬repainted.viewport.tracker.Agrees := by
  intro start m image pane repainted
  have sound : Transform.ofAffine m = .ok ⟨m, m.inverse⟩ :=
    Transform.ofAffine_of_isSound (by decide +kernel) (by decide +kernel)
  let enlarged := start.after (.tracker (.setTransform m))
  have tracked : enlarged.viewport.tracker.current = ⟨m, m.inverse⟩ :=
    congrArg (·.current)
      ((start.tracker_track (.setTransform m)).trans (Tracker.after_setTransform sound))
  have shown : pane.viewport.transform = ⟨m, m.inverse⟩ :=
    (Viewport.transform_redraw ⟨enlarged.viewport.tracker, some image⟩).trans tracked
  have kept := (List.cons.inj (pane.viewport.transforms_redraw_resized ⟨1000, 700⟩)).1
  refine ⟨?_, ?_, fun agrees => ?_⟩
  · exact congrArg (·.forward) (kept.trans shown)
  · exact pane.viewport.getLast?_events_redraw_resized ⟨1000, 700⟩ (Viewport.content_redraw _)
  · have identity := (Viewport.agrees_redraw_resized_iff _ _).mp agrees
    rw [shown] at identity
    exact absurd (congrArg Affine.a identity) (by decide +kernel)

/-- To go back to the identity instead of painting anew gives up the view, but brings tracker and
surface together again, unless something was saved. -/
theorem resetView_after_resize_agrees_iff
    (pane : Pane (RecordingSurface Float) Float (ImageHandle Float)) (size : Size Float) :
    (∀ ops, (((pane.resized size).after .resetView).run ops).viewport.tracker.Agrees) ↔
      pane.viewport.tracker.stack = [] := by
  let reset := (pane.viewport.resized size).resetView
  obtain ⟨state, empty⟩ := pane.viewport.surface_resetView_resized size
  obtain ⟨current, stack⟩ : reset.tracker.current = .identity ∧
      reset.tracker.stack = pane.viewport.tracker.stack :=
    List.cons.inj (Viewport.transforms_redraw _)
  have agrees : reset.tracker.Agrees := by
    rw [Tracker.Agrees, state, current]
    rfl
  rw [agrees_run_iff]
  exact (Tracker.lockstep_iff_of_bare empty).trans ((and_iff_right agrees).trans (by rw [stack]))

end Pane

end GraphLens
