import GraphLens.Proofs.Frames
import Mathlib.Data.List.Basic

namespace GraphLens

open RecordingSurface

variable {α : Type} [Scalar α]

namespace RecordingSurface

/-- A surface that was used in any way and whose record was cleared at any times. -/
inductive Reachable : RecordingSurface α → Prop
  | ofSize (size : Size α) : Reachable (ofSize size)
  | perform {s : RecordingSurface α} (h : Reachable s) (call : Surface.Call α (ImageHandle α)) :
      Reachable (DrawingSurface.perform s call)
  | clearEvents {s : RecordingSurface α} (h : Reachable s) : Reachable s.clearEvents

theorem Reachable.depthKept {s : RecordingSurface α} (h : s.Reachable) : s.DepthKept := by
  induction h with
  | ofSize size => rfl
  | perform h call ih => exact ih.perform call
  | clearEvents h ih => exact ih

end RecordingSurface

namespace Viewport

theorem surfaceState_redraw {v : Viewport (RecordingSurface α) α (ImageHandle α)}
    (h : v.tracker.surface.DepthKept) :
    v.redraw.tracker.surface.state = v.tracker.surface.state := by
  obtain ⟨⟨⟨size, ⟨m, depth⟩, stack, events⟩, current, saves⟩, content⟩ := v
  -- The restore counts the stack anew, which gives the depth that the state had before.
  obtain rfl : depth = depthOf stack := h
  cases content with
  | none => rfl
  | some image => rfl

theorem inStep_redraw {v : Viewport (RecordingSurface α) α (ImageHandle α)}
    (h : v.tracker.InStep) : v.redraw.tracker.InStep := by
  rw [tracker_redraw]
  exact Tracker.run_induction h .step v.paint

section

variable {σ ι : Type} [DrawingSurface σ α ι] (v : Viewport σ α ι)

theorem eq_of_paint_eq_append_save {before rest : List (Tracker.Op α ι)}
    (h : v.paint = before ++ .save :: rest) : before = [.clearRect v.visibleRect] := by
  have hpaint : v.paint = [.clearRect v.visibleRect] ++ .save ::
      ([.resetTransform, .clearRect v.canvasSize.toRect, .restore] ++
        v.content.toList.map (.drawImage · .origin)) := rfl
  rw [hpaint, List.append_cons_inj_of_notMem (by simp) (by simp)] at h
  exact h.1.symm

theorem eq_of_paint_eq_append_restore {before rest : List (Tracker.Op α ι)}
    (h : v.paint = before ++ .restore :: rest) :
    before = [.clearRect v.visibleRect, .save, .resetTransform,
      .clearRect v.canvasSize.toRect] := by
  have hpaint : v.paint = [.clearRect v.visibleRect, .save, .resetTransform,
      .clearRect v.canvasSize.toRect] ++ .restore ::
        v.content.toList.map (.drawImage · .origin) := rfl
  rw [hpaint, List.append_cons_inj_of_notMem (by simp) (by simp)] at h
  exact h.1.symm

end

end Viewport

namespace Pane

theorem inStep_run_ofSurface {s : RecordingSurface α} (hs : s.Reachable) (config : PanZoomConfig α)
    (ops : List (Op α (ImageHandle α))) :
    ((ofSurface s config).run ops).viewport.tracker.InStep :=
  run_induction (Tracker.inStep_ofSurface hs.depthKept) .step ops

/-- Whatever a surface was used for, whatever is saved on it, and whatever the pane over it has
handled, with any numbers: a repaint leaves transform, image, surface and both stacks as they
were. What its save puts aside is what was there at the start, and its restore finds that on top
of the entries of before. A second repaint puts on the record what the first one did, the canvas
as a whole being cleared under the identity. -/
theorem redraw_takes_back_what_it_saved {s : RecordingSurface α} (hs : s.Reachable)
    (config : PanZoomConfig α) (ops : List (Op α (ImageHandle α))) :
    let v := ((ofSurface s config).run ops).viewport
    let surface := v.tracker.surface
    let aside : Snapshot α := ⟨.identity, depthOf (surface.state :: surface.stack)⟩
    (v.redraw.transform = v.transform ∧ v.redraw.tracker.stack = v.tracker.stack ∧
      v.redraw.content = v.content ∧ v.redraw.tracker.surface.state = surface.state ∧
      v.redraw.tracker.surface.stack = surface.stack) ∧
    v.redraw.tracker = v.tracker.run v.paint ∧
    (∀ before rest, v.paint = before ++ .save :: rest →
      let t := v.tracker.run before
      t.transforms = v.tracker.transforms ∧ t.surface.state = surface.state ∧
        t.surface.stack = surface.stack) ∧
    (∀ before rest, v.paint = before ++ .restore :: rest →
      let t := v.tracker.run before
      t.stack = v.tracker.transforms ∧ t.surface.stack = surface.state :: surface.stack) ∧
    v.redraw.events = v.events ++ v.frame ∧
    v.redraw.redraw.events = v.redraw.events ++ v.frame ∧
    v.frame[3]? = some ⟨.clearRect v.canvasSize.toRect, aside⟩ := by
  intro v surface aside
  have h : v.tracker.InStep := inStep_run_ofSurface hs config ops
  refine ⟨⟨v.transform_redraw, v.stack_redraw, v.content_redraw, Viewport.surfaceState_redraw h.2,
    v.surfaceStack_redraw⟩, v.tracker_redraw, ?_, ?_, Viewport.events_redraw h, ?_, ?_⟩
  · intro before rest hsplit
    rw [v.eq_of_paint_eq_append_save hsplit]
    exact ⟨rfl, rfl, rfl⟩
  · intro before rest hsplit
    rw [v.eq_of_paint_eq_append_restore hsplit]
    exact ⟨rfl, rfl⟩
  · rw [Viewport.events_redraw (Viewport.inStep_redraw h), Viewport.frame_redraw]
  · change v.frame[3]? = some ⟨.clearRect v.canvasSize.toRect,
      ⟨.identity, depthOf (v.tracker.surface.state :: v.tracker.surface.stack)⟩⟩
    rw [h.state]
    rfl

theorem saved_mirror_is_under_the_repainted_view :
    let used : RecordingSurface Float :=
      DrawingSurface.perform (DrawingSurface.perform (.ofSize ⟨640, 480⟩) (.translate ⟨5, 0⟩)) .save
    let ops : List (Op Float (ImageHandle Float)) :=
      [.tracker (.scale (-1) 1), .tracker .save, .setContent ⟨7, ⟨120, 80⟩⟩,
        .tracker (.rotate (0.0 / 0.0)), .pointer (.wheel ⟨30, 5⟩ 80)]
    let v := ((ofSurface used.clearEvents .standard).run ops).viewport
    used.clearEvents.Reachable ∧ v.redraw.tracker.surface.state = v.tracker.surface.state ∧
      v.redraw.redraw.events = v.redraw.events ++ v.frame := by
  intro used ops v
  have reachable : used.clearEvents.Reachable :=
    (((RecordingSurface.Reachable.ofSize _).perform _).perform _).clearEvents
  obtain ⟨⟨_, _, _, state, _⟩, _, _, _, _, again, _⟩ :=
    redraw_takes_back_what_it_saved reachable .standard ops
  exact ⟨reachable, state, again⟩

end Pane

end GraphLens
