import GraphLens.Proofs.ExactScalar
import GraphLens.Proofs.PaneSteps
import GraphLens.Surface.Recording

namespace GraphLens

namespace Pane

section

variable {σ α ι : Type} [Scalar α] [DrawingSurface σ α ι]

def moveAlong (pane : Pane σ α ι) (path : List (Point α)) : Pane σ α ι :=
  pane.run (path.map fun pos => .pointer (.move pos))

/-- A press at `press` under the transform `start` has been moved to `last`. -/
structure Pinned (start : Transform α) (press last : Point α) (pane : Pane σ α ι) : Prop where
  checked : pane.viewport.tracker.AllChecked
  held : ∃ drag, pane.pointer.drag = some drag ∧ drag.anchor = start.mapPointInverse press
  under : pane.viewport.transformedPoint last = start.mapPointInverse press
  linear : pane.viewport.transform.forward.linear = start.forward.linear

theorem pinned_press {pane : Pane σ α ι} (h : pane.viewport.tracker.AllChecked)
    (press : Point α) :
    Pinned pane.viewport.transform press press (pane.after (.pointer (.down press))) where
  checked := h
  held := ⟨_, rfl, rfl⟩
  under := rfl
  linear := rfl

end

variable {K σ ι : Type} [Field K] [LinearOrder K] [Elementary K] [IsStrictOrderedRing K]
  [DrawingSurface σ K ι]

theorem handle_move {pane : Pane σ K ι} {drag : Drag K} (h : pane.viewport.tracker.AllChecked)
    (held : pane.pointer.drag = some drag) (pos : Point K) :
    let next := pane.after (.pointer (.move pos))
    (pane.handle (.move pos)).2.1 =
      .panned (pane.viewport.transformedPoint pos - drag.anchor) ∧
    next.viewport.transformedPoint pos = drag.anchor ∧
    next.viewport.transform.forward.linear = pane.viewport.transform.forward.linear := by
  obtain ⟨u, hok, hunder, hlinear⟩ := h.current.exact.compose_shift_sub pos drag.anchor
  obtain ⟨v, ok, hv⟩ := Viewport.apply_of_compose hok
  have houtcome := Pointer.handle_move_of_ok held ok
  have hnext : (pane.after (.pointer (.move pos))).viewport.transform = u := by
    rw [after_pointer, handle, houtcome]
    exact v.transform_redraw.trans hv
  refine ⟨congrArg (·.response) houtcome, ?_, ?_⟩
  · exact (congrArg (·.mapPointInverse pos) hnext).trans hunder
  · exact (congrArg (·.forward.linear) hnext).trans hlinear

theorem response_move_ne_rejected {pane : Pane σ K ι} (h : pane.viewport.tracker.AllChecked)
    (pos : Point K) : (pane.handle (.move pos)).2.1 ≠ .rejected := by
  cases held : pane.pointer.drag with
  | none => simp [handle, Pointer.handle, Pointer.move, held]
  | some drag => simp [(handle_move h held pos).1]

theorem Pinned.move {start : Transform K} {press last : Point K} {pane : Pane σ K ι}
    (h : Pinned start press last pane) (pos : Point K) :
    Pinned start press pos (pane.after (.pointer (.move pos))) := by
  obtain ⟨drag, held, hanchor⟩ := h.held
  obtain ⟨_, hunder, hlinear⟩ := handle_move h.checked held pos
  have keeps : (Op.pointer (.move pos) : Op K ι).keepsPress = true := rfl
  obtain ⟨drag', held', hanchor', _⟩ := drag_after keeps held
  exact ⟨allChecked_after h.checked _, ⟨drag', held', hanchor'.trans hanchor⟩,
    hunder.trans hanchor, hlinear.trans h.linear⟩

theorem Pinned.moveAlong {start : Transform K} {press last : Point K} {pane : Pane σ K ι}
    (h : Pinned start press last pane) (path : List (Point K)) :
    Pinned start press (path.getLastD last) (pane.moveAlong path) := by
  induction path generalizing pane last with
  | nil => exact h
  | cons pos path ih =>
      rw [List.getLastD_cons]
      exact ih (h.move pos)

omit [DrawingSurface σ K ι] in
theorem Pinned.transform_eq {start : Transform K} {press last : Point K} {pane pane' : Pane σ K ι}
    (h : Pinned start press last pane) (h' : Pinned start press last pane') :
    pane.viewport.transform = pane'.viewport.transform :=
  h.checked.current.exact.eq_of_linear_of_mapPointInverse h'.checked.current.exact
    (h.linear.trans h'.linear.symm) last (h.under.trans h'.under.symm)

/-- Whatever is asked of a pane while its pointer is held, the press keeps the content point that
was under it, and each move pans so that this point is under the pointer again, with the linear
part of the transform as it was. If the pointer is only moved, the transform depends on where it
was pressed and where it is now, and is that of the press again once the pointer is back. -/
theorem drag_pins_grabbed_point (surface : σ) (config : PanZoomConfig K) (before : List (Op K ι))
    (press : Point K) :
    let start := (ofSurface surface config).run before
    let pressed := start.after (.pointer (.down press))
    (∀ during : List (Op K ι), (∀ op ∈ during, op.keepsPress = true) →
      let now := pressed.run during
      let grabbed := start.viewport.transformedPoint press
      (∃ drag, now.pointer.drag = some drag ∧ drag.anchor = grabbed ∧ drag.press = press) ∧
      ∀ pos,
        let next := now.after (.pointer (.move pos))
        (now.handle (.move pos)).2.1 =
          .panned (now.viewport.transformedPoint pos - grabbed) ∧
        next.viewport.transformedPoint pos = grabbed ∧
        next.viewport.transform.forward.linear = now.viewport.transform.forward.linear) ∧
    (∀ (surface' : σ) (config' : PanZoomConfig K) (before' : List (Op K ι)),
      let start' := (ofSurface surface' config').run before'
      let pressed' := start'.after (.pointer (.down press))
      start'.viewport.transform = start.viewport.transform →
      ∀ path path' : List (Point K), path.getLastD press = path'.getLastD press →
        (pressed.moveAlong path).viewport.transform =
          (pressed'.moveAlong path').viewport.transform) ∧
    ∀ path : List (Point K), path.getLastD press = press →
      (pressed.moveAlong path).viewport.transform = start.viewport.transform := by
  intro start pressed
  have reachable (surface : σ) (config : PanZoomConfig K) (before : List (Op K ι)) :
      ((ofSurface surface config).run before).viewport.tracker.AllChecked :=
    allChecked_run (Tracker.allChecked_ofSurface surface) before
  have hstart : start.viewport.tracker.AllChecked := reachable surface config before
  have hpress := pinned_press hstart press
  refine ⟨?_, ?_, ?_⟩
  · intro during keep now grabbed
    have hnow : now.viewport.tracker.AllChecked := allChecked_run hpress.checked during
    have held : pressed.pointer.drag = some (.start press grabbed) := rfl
    -- The anchor outlives whatever happens in between, so the move below aims at it.
    obtain ⟨drag, hdrag, (hanchor : drag.anchor = grabbed), hplace⟩ := drag_run keep held
    refine ⟨⟨drag, hdrag, hanchor, hplace⟩, ?_⟩
    rw [← hanchor]
    exact handle_move hnow hdrag
  · intro surface' config' before' start' pressed' same path path' hlast
    -- Both ends are pinned by the same transform, press and last place.
    have hpress' := pinned_press (reachable surface' config' before') press
    rw [same] at hpress'
    have hpath := hpress.moveAlong path
    rw [hlast] at hpath
    exact hpath.transform_eq (hpress'.moveAlong path')
  · intro path hlast
    have hpath := hpress.moveAlong path
    rw [hlast] at hpath
    calc (pressed.moveAlong path).viewport.transform
      _ = pressed.viewport.transform := hpath.transform_eq hpress
      _ = start.viewport.transform := rfl

theorem wheel_in_a_drag_pins_grabbed_point :
    let start : Pane (RecordingSurface ℚ) ℚ (ImageHandle ℚ) :=
      (ofSurface (.ofSize ⟨800, 600⟩) .standard).run [.tracker (.transform ⟨2, 1, -1, 2, 30, 40⟩)]
    let pressed := start.after (.pointer (.down ⟨100, 90⟩))
    let during : List (Op ℚ (ImageHandle ℚ)) :=
      [.pointer (.move ⟨130, 80⟩), .pointer (.wheel ⟨10, 20⟩ 80), .tracker (.scale 1 (-1))]
    let next := (pressed.run during).after (.pointer (.move ⟨200, 150⟩))
    let grabbed := next.viewport.transformedPoint ⟨200, 150⟩
    ((∀ op ∈ during, op.keepsPress = true) ∧ grabbed.x = 38 ∧ grabbed.y = 6) ∧
    (pressed.moveAlong [⟨500, -20⟩, ⟨7, 7⟩]).viewport.transform =
      (pressed.moveAlong [⟨7, 7⟩]).viewport.transform ∧
    (pressed.moveAlong [⟨7, 7⟩, ⟨100, 90⟩]).viewport.transform = start.viewport.transform := by
  intro start pressed during next grabbed
  obtain ⟨hpins, hpaths, hback⟩ := drag_pins_grabbed_point
    (RecordingSurface.ofSize ⟨800, 600⟩ : RecordingSurface ℚ) .standard
    [.tracker (.transform ⟨2, 1, -1, 2, 30, 40⟩)] ⟨100, 90⟩
  have keep : ∀ op ∈ during, op.keepsPress = true := by decide
  have hgrabbed : grabbed = start.viewport.transformedPoint ⟨100, 90⟩ :=
    ((hpins during keep).2 ⟨200, 150⟩).2.1
  have hplace : (start.viewport.transformedPoint ⟨100, 90⟩).x = 38 ∧
      (start.viewport.transformedPoint ⟨100, 90⟩).y = 6 := by decide +kernel
  refine ⟨⟨keep, ?_⟩, ?_, hback _ rfl⟩
  · rwa [hgrabbed]
  · exact hpaths _ _ _ rfl _ _ rfl

end Pane

end GraphLens
