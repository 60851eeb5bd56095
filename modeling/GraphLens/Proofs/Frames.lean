import GraphLens.Proofs.Lockstep
import GraphLens.Proofs.PaneSteps

namespace GraphLens

open PanZoomTarget RecordingSurface

variable {α : Type} [Scalar α]

namespace RecordingSurface

def DepthKept (s : RecordingSurface α) : Prop := s.state.depth = depthOf s.stack

theorem DepthKept.perform {s : RecordingSurface α} (h : s.DepthKept)
    (call : Surface.Call α (ImageHandle α)) : (DrawingSurface.perform s call).DepthKept := by
  obtain ⟨size, state, stack, events⟩ := s
  cases call with
  | restore =>
      cases stack with
      | nil => rfl
      | cons saved stack => rfl
  | save => rfl
  | translate | scale | rotate | transform | setTransform | clearRect | drawImage => exact h

def entries (s : RecordingSurface α) : List (Surface.Call α (ImageHandle α)) → List (Event α)
  | [] => []
  | call :: calls =>
      ⟨call, (s.advance call).state⟩ :: entries (DrawingSurface.perform s call) calls

theorem events_foldl (s : RecordingSurface α) (calls : List (Surface.Call α (ImageHandle α))) :
    (calls.foldl DrawingSurface.perform s).events.toList = s.events.toList ++ s.entries calls := by
  induction calls generalizing s with
  | nil => exact (List.append_nil _).symm
  | cons call calls ih =>
      rw [List.foldl_cons, ih, events_perform, entries, List.append_assoc, List.singleton_append]

theorem entries_paint {s : RecordingSurface α} (h : s.DepthKept) (visible canvas : Rect α)
    (images : List (ImageHandle α)) :
    let aside : Snapshot α := ⟨.identity, depthOf (s.state :: s.stack)⟩
    s.entries ([.clearRect visible, .save, .setTransform .identity, .clearRect canvas, .restore] ++
        images.map (.drawImage · .origin)) =
      [⟨.clearRect visible, s.state⟩, ⟨.save, { aside with transform := s.state.transform }⟩,
        ⟨.setTransform .identity, aside⟩, ⟨.clearRect canvas, aside⟩, ⟨.restore, s.state⟩] ++
      images.map fun image => ⟨.drawImage image .origin, s.state⟩ := by
  obtain ⟨size, ⟨m, depth⟩, stack, events⟩ := s
  obtain rfl : depth = depthOf stack := h
  have draws (s : RecordingSurface α) :
      s.entries (images.map (.drawImage · .origin)) =
        images.map fun image => ⟨.drawImage image .origin, s.state⟩ := by
    induction images generalizing s with
    | nil => rfl
    | cons image images ih => exact congrArg _ (ih _)
  -- The restore brings back what was saved, so the image is drawn under the transform of the start.
  simp only [List.cons_append, List.nil_append, entries, draws]
  rfl

end RecordingSurface

namespace Tracker

/-- The state of the surface is what the tracker and the stack say. -/
def InStep (t : Tracker (RecordingSurface α) α) : Prop :=
  (∃ base, Lockstep base t) ∧ t.surface.DepthKept

omit [Scalar α] in
theorem InStep.state {t : Tracker (RecordingSurface α) α} (h : t.InStep) :
    t.surface.state = ⟨t.current.forward, depthOf t.surface.stack⟩ := by
  obtain ⟨⟨base, lockstep⟩, depth⟩ := h
  rw [← lockstep.transform, ← depth]

theorem inStep_ofSurface {s : RecordingSurface α} (h : s.DepthKept) : (ofSurface s).InStep :=
  ⟨⟨s.stack, lockstep_ofSurface s⟩, h.perform _⟩

theorem InStep.step {t t' : Tracker (RecordingSurface α) α} {op : Op α (ImageHandle α)}
    (h : t.InStep) (hs : t.Steps op t') : t'.InStep := by
  obtain ⟨⟨base, lockstep⟩, depth⟩ := h
  refine ⟨⟨base, lockstep.step hs⟩, ?_⟩
  cases hs with
  | unmatched empty => exact depth
  | saved | restored | installed | reset | drawn => exact depth.perform _

end Tracker

namespace Viewport

/-- What one repaint leaves on the record: the visible rectangle is cleared under the transform
of the moment and all of the canvas under the identity, with the transform put aside meanwhile;
then the image, if there is one, is drawn. -/
def frame (v : Viewport (RecordingSurface α) α (ImageHandle α)) : List (Event α) :=
  let here : Snapshot α := ⟨v.transform.forward, depthOf v.tracker.surface.stack⟩
  let aside : Snapshot α := ⟨.identity, depthOf (here :: v.tracker.surface.stack)⟩
  [⟨.clearRect v.visibleRect, here⟩, ⟨.save, { aside with transform := v.transform.forward }⟩,
    ⟨.setTransform .identity, aside⟩, ⟨.clearRect v.canvasSize.toRect, aside⟩, ⟨.restore, here⟩] ++
    v.content.toList.map fun image => ⟨.drawImage image .origin, here⟩

theorem last_call_frame (v : Viewport (RecordingSurface α) α (ImageHandle α)) :
    v.frame.getLast?.map (·.call) = some (v.content.elim .restore (.drawImage · .origin)) := by
  cases h : v.content <;> simp [frame, h]

def events (v : Viewport (RecordingSurface α) α (ImageHandle α)) : List (Event α) :=
  v.tracker.surface.events.toList

theorem surfaceStack_redraw (v : Viewport (RecordingSurface α) α (ImageHandle α)) :
    v.redraw.tracker.surface.stack = v.tracker.surface.stack := by
  obtain ⟨tracker, content⟩ := v
  cases content with
  | none => rfl
  | some image => rfl

theorem canvasSize_redraw (v : Viewport (RecordingSurface α) α (ImageHandle α)) :
    v.redraw.canvasSize = v.canvasSize := by
  obtain ⟨tracker, content⟩ := v
  cases content with
  | none => rfl
  | some image => rfl

theorem visibleRect_redraw (v : Viewport (RecordingSurface α) α (ImageHandle α)) :
    v.redraw.visibleRect = v.visibleRect := by
  simp only [visibleRect, transformedPoint, Tracker.transformedPoint, canvasSize_redraw]
  rw [show v.redraw.tracker.current = v.tracker.current from v.transform_redraw]

theorem frame_redraw (v : Viewport (RecordingSurface α) α (ImageHandle α)) :
    v.redraw.frame = v.frame := by
  simp only [frame, surfaceStack_redraw, canvasSize_redraw, visibleRect_redraw, transform_redraw,
    content_redraw]

theorem events_redraw {v : Viewport (RecordingSurface α) α (ImageHandle α)}
    (h : v.tracker.InStep) : v.redraw.events = v.events ++ v.frame := by
  rw [events, surface_redraw, events_foldl, calls_paint, entries_paint h.2, h.state]
  rfl

end Viewport

namespace Pane

section

variable {σ ι : Type} [DrawingSurface σ α ι]

/-- The request goes to the tracker directly, so that no repaint follows it. -/
def Op.isRaw : Op α ι → Bool
  | .tracker _ | .apply _ => true
  | .pointer _ | .setConfig _ | .redraw | .setContent _ | .clearContent | .resetView => false

def repaints (pane : Pane σ α ι) : Op α ι → Bool
  | .pointer event => (pane.handle event).2.1.repaints
  | .redraw | .setContent _ | .clearContent | .resetView => true
  | .tracker _ | .apply _ | .setConfig _ => false

theorem viewport_after_of_silent {pane : Pane σ α ι} {op : Op α ι} (raw : op.isRaw = false)
    (silent : pane.repaints op = false) : (pane.after op).viewport = pane.viewport := by
  cases op with
  | pointer event =>
      have hsteps := pane.pointer.steps_handle pane.viewport event
      rcases hsteps.target_of_silent silent with same | ⟨m, e, refused⟩
      · exact same
      · exact Viewport.eq_of_apply_eq_error refused
  | setConfig config => rfl
  | tracker | apply => cases raw
  | redraw | setContent | clearContent | resetView => cases silent

end

variable {pane : Pane (RecordingSurface α) α (ImageHandle α)} {op : Op α (ImageHandle α)}

theorem exists_redraw_after (h : pane.viewport.tracker.InStep)
    (repaints : pane.repaints op = true) :
    ∃ (v : Viewport (RecordingSurface α) α (ImageHandle α)) (lead : List (Event α)),
      (pane.after op).viewport = v.redraw ∧ v.tracker.InStep ∧
      v.events = pane.viewport.events ++ lead ∧ lead.length ≤ 1 ∧
      ∀ e ∈ lead, e.call.isDraw = false := by
  have unchanged : pane.viewport.events = pane.viewport.events ++ [] := (List.append_nil _).symm
  cases op with
  | pointer event =>
      obtain ⟨m, v, ok, htarget⟩ :=
        (pane.pointer.steps_handle pane.viewport event).target_of_repaints repaints
      have accepted := Viewport.serve_of_apply ok
      obtain ⟨u, _, hv⟩ := Tracker.install_eq_ok accepted
      refine ⟨v, [⟨.transform m, v.tracker.surface.state⟩], htarget,
        h.step (Tracker.steps_of_serve accepted), ?_, by simp, by simp [Surface.Call.isDraw]⟩
      rw [Viewport.events, hv]
      exact events_perform _ _
  | redraw => exact ⟨pane.viewport, [], rfl, h, unchanged, by simp, by simp⟩
  | setContent image =>
      exact ⟨{ pane.viewport with content := some image }, [], rfl, h, unchanged, by simp, by simp⟩
  | clearContent =>
      exact ⟨{ pane.viewport with content := none }, [], rfl, h, unchanged, by simp, by simp⟩
  | resetView =>
      have hreset : pane.viewport.tracker.Steps .resetTransform
          pane.viewport.tracker.resetTransform := .reset
      exact ⟨{ pane.viewport with tracker := pane.viewport.tracker.resetTransform }, _, rfl,
        h.step hreset, events_perform _ _, by simp, by simp [Surface.Call.isDraw]⟩
  | tracker | apply | setConfig => cases repaints

theorem events_after_of_repaints (h : pane.viewport.tracker.InStep)
    (repaints : pane.repaints op = true) :
    ∃ lead : List (Event α), lead.length ≤ 1 ∧ (∀ e ∈ lead, e.call.isDraw = false) ∧
      (pane.after op).viewport.events =
        pane.viewport.events ++ lead ++ (pane.after op).viewport.frame := by
  obtain ⟨v, lead, hafter, hv, hlead, hlength, hdraws⟩ := exists_redraw_after h repaints
  refine ⟨lead, hlength, hdraws, ?_⟩
  rw [hafter, Viewport.events_redraw hv, hlead, Viewport.frame_redraw]

/-- The record ends with the frame of the present state. -/
def ShowsFrame (pane : Pane (RecordingSurface α) α (ImageHandle α)) : Prop :=
  pane.viewport.frame <:+ pane.viewport.events

theorem showsFrame_of_repaints (h : pane.viewport.tracker.InStep)
    (repaints : pane.repaints op = true) : (pane.after op).ShowsFrame := by
  obtain ⟨lead, _, _, hevents⟩ := events_after_of_repaints h repaints
  exact ⟨_, hevents.symm⟩

theorem ShowsFrame.after (hs : pane.ShowsFrame) (h : pane.viewport.tracker.InStep)
    (raw : op.isRaw = false) : (pane.after op).ShowsFrame := by
  cases repaints : pane.repaints op with
  | true => exact showsFrame_of_repaints h repaints
  | false =>
      have same := viewport_after_of_silent raw repaints
      rwa [ShowsFrame, same]

theorem ShowsFrame.run (hs : pane.ShowsFrame) (h : pane.viewport.tracker.InStep)
    {ops : List (Op α (ImageHandle α))} (raw : ∀ op ∈ ops, op.isRaw = false) :
    (pane.run ops).ShowsFrame := by
  induction ops generalizing pane with
  | nil => exact hs
  | cons op ops ih =>
      obtain ⟨rawOp, raw⟩ := List.forall_mem_cons.mp raw
      exact ih (hs.after h rawOp) (after_induction h .step op) raw

/-- A request that does not go to the tracker directly either leaves the viewport and the record
of its surface alone, or repaints exactly once: behind at most one entry about the transform, the
record has gained the frame of the new state. So after a repaint, whatever is handled then, with
any numbers, the record ends with the frame of the present transform and image, and the image is
the one that was set last, unless it was taken away since. -/
theorem record_ends_with_frame (size : Size α) (config : PanZoomConfig α)
    (before : List (Op α (ImageHandle α))) :
    let pane : Pane (RecordingSurface α) α (ImageHandle α) :=
      (ofSurface (.ofSize size) config).run before
    (∀ op : Op α (ImageHandle α), op.isRaw = false →
      let next := pane.after op
      (pane.repaints op = false → next.viewport = pane.viewport) ∧
      (pane.repaints op = true →
        ∃ lead : List (Event α), lead.length ≤ 1 ∧ (∀ e ∈ lead, e.call.isDraw = false) ∧
          next.viewport.events = pane.viewport.events ++ lead ++ next.viewport.frame)) ∧
    ∀ (op : Op α (ImageHandle α)) (rest : List (Op α (ImageHandle α))),
      pane.repaints op = true → (∀ r ∈ rest, r.isRaw = false) →
        let now := pane.run (op :: rest)
        now.viewport.frame <:+ now.viewport.events ∧
        now.viewport.content = ((before ++ op :: rest).filterMap Op.content?).getLastD none := by
  intro pane
  have fresh : (RecordingSurface.ofSize size).DepthKept := rfl
  have h : pane.viewport.tracker.InStep :=
    run_induction (Tracker.inStep_ofSurface fresh) .step before
  refine ⟨fun op raw => ⟨viewport_after_of_silent raw, events_after_of_repaints h⟩, ?_⟩
  intro op rest repaints raw now
  refine ⟨(showsFrame_of_repaints h repaints).run (after_induction h .step op) raw, ?_⟩
  have hnow : now = (ofSurface (.ofSize size) config).run (before ++ op :: rest) :=
    List.foldl_append.symm
  rw [hnow, content_run]
  rfl

theorem wheel_in_a_drag_ends_with_frame :
    let before : List (Op Float (ImageHandle Float)) := [.tracker (.rotate 0.5), .tracker .save]
    let pane : Pane (RecordingSurface Float) Float (ImageHandle Float) :=
      (ofSurface (.ofSize ⟨640, 480⟩) .standard).run before
    let image : ImageHandle Float := ⟨7, ⟨120, 80⟩⟩
    let drag : List (Op Float (ImageHandle Float)) :=
      [.pointer (.down ⟨10, 20⟩), .pointer (.wheel ⟨30, 5⟩ 80), .pointer (.move ⟨50, 60⟩)]
    let rest := drag ++ [.pointer .cancel, .clearContent, .pointer (.zoom (0.0 / 0.0))]
    let shown := pane.run (.setContent image :: drag)
    let now := pane.run (.setContent image :: rest)
    (∀ r ∈ rest, r.isRaw = false) ∧
    shown.viewport.frame <:+ shown.viewport.events ∧
    shown.viewport.frame.getLast?.map (·.call) = some (.drawImage image .origin) ∧
    now.viewport.frame <:+ now.viewport.events ∧
    now.viewport.frame.getLast?.map (·.call) = some .restore := by
  intro before pane image drag rest shown now
  have raw : ∀ r ∈ rest, r.isRaw = false := by simp [rest, drag, Op.isRaw]
  have rawDrag : ∀ r ∈ drag, r.isRaw = false := by simp [drag, Op.isRaw]
  obtain ⟨-, ends⟩ := record_ends_with_frame ⟨640, 480⟩ .standard before
  obtain ⟨hshown, drawn⟩ := ends (.setContent image) drag rfl rawDrag
  obtain ⟨hnow, blank⟩ := ends (.setContent image) rest rfl raw
  have hdrawn : shown.viewport.content = some image := drawn
  have hblank : now.viewport.content = none := blank
  refine ⟨raw, hshown, ?_, hnow, ?_⟩
  · rw [Viewport.last_call_frame, hdrawn]
    rfl
  · rw [Viewport.last_call_frame, hblank]
    rfl

end Pane

end GraphLens
