import GraphLens.Pane
import GraphLens.Proofs.PointerSteps
import GraphLens.Proofs.Runs
import GraphLens.Proofs.TrackerSteps

namespace GraphLens

open PanZoomTarget

instance {α : Type} [Scalar α] : PanZoomTarget (Transform α) α where
  transformedPoint := Transform.mapPointInverse
  apply t op :=
    match t.compose op with
    | .ok next => (.ok (), next)
    | .error e => (.error e, t)
  redraw t := t

variable {σ α ι : Type} [Scalar α] [DrawingSurface σ α ι]

namespace Viewport

theorem transforms_blank (v : Viewport σ α ι) : v.blank.transforms = v.tracker.transforms := rfl

theorem transforms_redraw (v : Viewport σ α ι) :
    v.redraw.tracker.transforms = v.tracker.transforms := by
  unfold redraw
  split
  · exact v.transforms_blank
  · exact v.transforms_blank

theorem transform_redraw (v : Viewport σ α ι) : v.redraw.transform = v.transform :=
  (List.cons.inj v.transforms_redraw).1

theorem serve_of_apply {v v' : Viewport σ α ι} {m : Affine α}
    {r : Except (DegenerateError α) Unit} (h : apply v m = (r, v')) :
    v.tracker.serve (.transform m) = (r, v'.tracker) := by
  obtain ⟨rfl, rfl⟩ := Prod.mk.inj h
  rfl

theorem content_of_apply {v v' : Viewport σ α ι} {m : Affine α}
    {r : Except (DegenerateError α) Unit} (h : apply v m = (r, v')) : v'.content = v.content := by
  obtain ⟨-, rfl⟩ := Prod.mk.inj h
  rfl

theorem eq_of_apply_eq_error {v v' : Viewport σ α ι} {m : Affine α} {e : DegenerateError α}
    (h : apply v m = (.error e, v')) : v' = v := by
  obtain ⟨tracker, content⟩ := v
  obtain ⟨tracker', content'⟩ := v'
  rw [mk.injEq]
  exact ⟨Tracker.eq_of_serve_eq_error (serve_of_apply h), content_of_apply h⟩

theorem apply_of_compose {v : Viewport σ α ι} {m : Affine α} {u : Transform α}
    (h : v.transform.compose m = .ok u) :
    ∃ v' : Viewport σ α ι, apply v m = (.ok (), v') ∧ v'.transform = u := by
  let tracker : Tracker σ α := Tracker.draw { v.tracker with current := u } (.transform m)
  have accepted : v.tracker.transform m = (.ok (), tracker) :=
    congrArg (v.tracker.install · (.transform m)) h
  refine ⟨{ v with tracker }, ?_, rfl⟩
  simp only [apply, accepted, Prod.map, id]

theorem compose_of_apply {v v' : Viewport σ α ι} {m : Affine α} (h : apply v m = (.ok (), v')) :
    v.transform.compose m = .ok v'.transform := by
  obtain ⟨u, hu, hv⟩ := Tracker.install_eq_ok (serve_of_apply h)
  exact hu.trans (congrArg (fun t => Except.ok t.current) hv.symm)

theorem unnoticed_transform :
    Pointer.Unnoticed (transform : Viewport σ α ι → Transform α) where
  transformedPoint _ _ := rfl
  apply v m := by
    simp only [apply, Tracker.transform, transform]
    cases v.tracker.current.compose m with
    | ok next => rfl
    | error e => rfl
  redraw v := v.transform_redraw.symm

theorem stack_redraw (v : Viewport σ α ι) : v.redraw.tracker.stack = v.tracker.stack :=
  (List.cons.inj v.transforms_redraw).2

def paint (v : Viewport σ α ι) : List (Tracker.Op α ι) :=
  [.clearRect v.visibleRect, .save, .resetTransform, .clearRect v.canvasSize.toRect, .restore] ++
    v.content.toList.map (.drawImage · .origin)

theorem redraw_eq (v : Viewport σ α ι) :
    v.redraw = { v with tracker := v.tracker.run v.paint } := by
  obtain ⟨tracker, content⟩ := v
  cases content with
  | none => rfl
  | some image => rfl

theorem tracker_redraw (v : Viewport σ α ι) : v.redraw.tracker = v.tracker.run v.paint := by
  rw [redraw_eq]

theorem content_redraw (v : Viewport σ α ι) : v.redraw.content = v.content := by
  rw [redraw_eq]

theorem calls_paint (v : Viewport σ α ι) :
    v.paint.map Tracker.Op.call =
      [.clearRect v.visibleRect, .save, .setTransform .identity, .clearRect v.canvasSize.toRect,
        .restore] ++ v.content.toList.map (.drawImage · .origin) := by
  cases h : v.content <;> simp only [paint, h] <;> rfl

theorem surface_redraw (v : Viewport σ α ι) :
    v.redraw.tracker.surface =
      (v.paint.map Tracker.Op.call).foldl DrawingSurface.perform v.tracker.surface := by
  obtain ⟨tracker, content⟩ := v
  cases content with
  | none => rfl
  | some image => rfl

theorem apply_keeps (v : Viewport σ α ι) (m : Affine α) :
    (apply v m).2.tracker.stack = v.tracker.stack ∧ (apply v m).2.content = v.content := by
  refine ⟨?_, rfl⟩
  change (v.tracker.install _ _).2.stack = v.tracker.stack
  cases v.tracker.current.compose m with
  | ok next => rfl
  | error e => rfl

theorem keeps_of_reaches {v v' : Viewport σ α ι} (h : Pointer.Reaches v v') :
    v'.tracker.stack = v.tracker.stack ∧ v'.content = v.content := by
  cases h with
  | untouched => exact ⟨rfl, rfl⟩
  | @changed m mid ok =>
      obtain ⟨hstack, hcontent⟩ := v.apply_keeps m
      rw [ok] at hstack hcontent
      exact ⟨mid.stack_redraw.trans hstack, mid.content_redraw.trans hcontent⟩
  | @refused m e v' error =>
      rw [eq_of_apply_eq_error error]
      exact ⟨rfl, rfl⟩

theorem exists_run_of_reaches {v v' : Viewport σ α ι} (h : Pointer.Reaches v v') :
    ∃ ops, v'.tracker = v.tracker.run ops := by
  cases h with
  | untouched => exact ⟨[], rfl⟩
  | @changed m mid ok =>
      have hmid : v.tracker.after (.transform m) = mid.tracker := by
        rw [Tracker.after, serve_of_apply ok]
      exact ⟨.transform m :: mid.paint,
        mid.tracker_redraw.trans (congrArg (·.run mid.paint) hmid.symm)⟩
  | refused error =>
      obtain rfl := eq_of_apply_eq_error error
      exact ⟨[], rfl⟩

end Viewport

namespace Pane

def after (pane : Pane σ α ι) (op : Op α ι) : Pane σ α ι := (pane.perform op).1

def run (pane : Pane σ α ι) (ops : List (Op α ι)) : Pane σ α ι := ops.foldl after pane

theorem after_pointer (pane : Pane σ α ι) (event : Pointer.Event α) :
    pane.after (.pointer event) = (pane.handle event).1 := rfl

theorem tracker_track (pane : Pane σ α ι) (op : Tracker.Op α ι) :
    (pane.track op).1.viewport.tracker = pane.viewport.tracker.after op := rfl

theorem pointer_track (pane : Pane σ α ι) (op : Tracker.Op α ι) :
    (pane.track op).1.pointer = pane.pointer := rfl

theorem content_after_pointer (pane : Pane σ α ι) (event : Pointer.Event α) :
    (pane.after (.pointer event)).viewport.content = pane.viewport.content :=
  (Viewport.keeps_of_reaches (pane.pointer.steps_handle pane.viewport event).reaches).2

/-- What the request makes the content, which may be to have none. -/
def Op.content? : Op α ι → Option (Option ι)
  | .setContent image => some (some image)
  | .clearContent => some none
  | .pointer _ | .tracker _ | .apply _ | .setConfig _ | .redraw | .resetView => none

theorem content_after (pane : Pane σ α ι) (op : Op α ι) :
    (pane.after op).viewport.content = op.content?.getD pane.viewport.content := by
  cases op with
  | pointer event => exact pane.content_after_pointer event
  | tracker | apply | setConfig => rfl
  | redraw | setContent | clearContent | resetView => exact Viewport.content_redraw _

theorem content_run (pane : Pane σ α ι) (ops : List (Op α ι)) :
    (pane.run ops).viewport.content =
      (ops.filterMap Op.content?).getLastD pane.viewport.content :=
  foldl_eq_getLastD (·.viewport.content) content_after pane ops

theorem tracker_run_map (pane : Pane σ α ι) (ops : List (Tracker.Op α ι)) :
    (pane.run (ops.map .tracker)).viewport.tracker = pane.viewport.tracker.run ops := by
  induction ops generalizing pane with
  | nil => rfl
  | cons op ops ih =>
      refine (ih (pane.after (.tracker op))).trans ?_
      exact congrArg (·.run ops) (pane.tracker_track op)

theorem exists_run_after (pane : Pane σ α ι) (op : Op α ι) :
    ∃ ops, (pane.after op).viewport.tracker = pane.viewport.tracker.run ops := by
  cases op with
  | pointer event =>
      exact Viewport.exists_run_of_reaches (pane.pointer.steps_handle pane.viewport event).reaches
  | tracker op => exact ⟨[op], pane.tracker_track op⟩
  | apply m => exact ⟨[.transform m], pane.tracker_track (.transform m)⟩
  | setConfig config => exact ⟨[], rfl⟩
  | redraw => exact ⟨_, Viewport.tracker_redraw _⟩
  | setContent image => exact ⟨_, Viewport.tracker_redraw _⟩
  | clearContent => exact ⟨_, Viewport.tracker_redraw _⟩
  | resetView =>
      let reset : Viewport σ α ι :=
        { pane.viewport with tracker := pane.viewport.tracker.resetTransform }
      exact ⟨.resetTransform :: reset.paint, reset.tracker_redraw⟩

theorem after_induction {P : Tracker σ α → Prop} {pane : Pane σ α ι}
    (start : P pane.viewport.tracker)
    (step : ∀ {t t' : Tracker σ α} {op : Tracker.Op α ι}, P t → t.Steps op t' → P t')
    (op : Op α ι) : P (pane.after op).viewport.tracker := by
  obtain ⟨ops, h⟩ := pane.exists_run_after op
  rw [h]
  exact Tracker.run_induction start step ops

theorem run_induction {P : Tracker σ α → Prop} {pane : Pane σ α ι}
    (start : P pane.viewport.tracker)
    (step : ∀ {t t' : Tracker σ α} {op : Tracker.Op α ι}, P t → t.Steps op t' → P t')
    (ops : List (Op α ι)) : P (pane.run ops).viewport.tracker := by
  induction ops generalizing pane with
  | nil => exact start
  | cons op ops ih => exact ih (after_induction start step op)

theorem allChecked_after {pane : Pane σ α ι} (h : pane.viewport.tracker.AllChecked)
    (op : Op α ι) : (pane.after op).viewport.tracker.AllChecked :=
  after_induction h .step op

theorem allChecked_run {pane : Pane σ α ι} (h : pane.viewport.tracker.AllChecked)
    (ops : List (Op α ι)) : (pane.run ops).viewport.tracker.AllChecked :=
  run_induction h .step ops

theorem allChecked_run_ofSurface (surface : σ) (config : PanZoomConfig α) (ops : List (Op α ι)) :
    ((ofSurface surface config).run ops).viewport.tracker.AllChecked :=
  allChecked_run (Tracker.allChecked_ofSurface surface) ops

def Op.keepsPress : Op α ι → Bool
  | .pointer event => event.keepsPress
  | _ => true

theorem drag_after {pane : Pane σ α ι} {op : Op α ι} {drag : Drag α}
    (keeps : op.keepsPress = true) (held : pane.pointer.drag = some drag) :
    ∃ drag', (pane.after op).pointer.drag = some drag' ∧ drag'.anchor = drag.anchor ∧
      drag'.press = drag.press := by
  cases op with
  | pointer event =>
      exact (pane.pointer.steps_handle pane.viewport event).drag_of_keepsPress keeps held
  | tracker op => exact ⟨drag, (congrArg _ (pane.pointer_track op)).trans held, rfl, rfl⟩
  | apply m => exact ⟨drag, (congrArg _ (pane.pointer_track (.transform m))).trans held, rfl, rfl⟩
  | setConfig | redraw | setContent | clearContent | resetView => exact ⟨drag, held, rfl, rfl⟩

theorem drag_run {pane : Pane σ α ι} {ops : List (Op α ι)} {drag : Drag α}
    (keep : ∀ op ∈ ops, op.keepsPress = true) (held : pane.pointer.drag = some drag) :
    ∃ drag', (pane.run ops).pointer.drag = some drag' ∧ drag'.anchor = drag.anchor ∧
      drag'.press = drag.press := by
  induction ops generalizing pane drag with
  | nil => exact ⟨drag, held, rfl, rfl⟩
  | cons op ops ih =>
      obtain ⟨keeps, keep⟩ := List.forall_mem_cons.mp keep
      obtain ⟨mid, hmid, hanchor, hpress⟩ := drag_after keeps held
      obtain ⟨last, hlast, hanchor', hpress'⟩ := ih keep hmid
      exact ⟨last, hlast, hanchor'.trans hanchor, hpress'.trans hpress⟩

end Pane

end GraphLens
