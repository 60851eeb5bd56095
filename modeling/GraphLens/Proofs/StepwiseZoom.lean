import GraphLens.Proofs.CenteredZoom
import GraphLens.Proofs.Lockstep

namespace GraphLens

namespace Tracker

section

variable {σ α ι : Type} [Scalar α] [DrawingSurface σ α ι]

def Op.composed? : Op α ι → Option (Affine α)
  | .translate v => some (.shift v)
  | .scale sx sy => some (.scaling sx sy)
  | .rotate angle => some (.rotation angle)
  | .transform m => some m
  | .save | .restore | .setTransform _ | .resetTransform | .clearRect _ | .drawImage _ _ => none

/-- Carries requests out one after the other, up to one that is refused. -/
def attempt (t : Tracker σ α) : List (Op α ι) → Except (DegenerateError α) Unit × Tracker σ α
  | [] => (.ok (), t)
  | op :: ops =>
    match t.serve op with
    | (.ok (), t') => t'.attempt ops
    | (.error e, t') => (.error e, t')

/-- Carries all of the requests out, or else puts the transform back that was there before. -/
def transact (t : Tracker σ α) (ops : List (Op α ι)) :
    Except (DegenerateError α) Unit × Tracker σ α :=
  match t.attempt ops with
  | (.ok (), t') => (.ok (), t')
  | (.error e, t') => (.error e, t'.after (.setTransform t.current.forward))

def zoomSteps (focus : Point α) (factor : α) : List (Op α ι) :=
  [.translate focus.toVec, .scale factor factor, .translate (-focus.toVec)]

theorem serve_of_composed (t : Tracker σ α) {op : Op α ι} {m : Affine α}
    (composed : op.composed? = some m) :
    t.serve op = t.install (t.current.compose m) op.call := by
  cases op <;> cases composed <;> rfl

theorem exists_run_attempt (t : Tracker σ α) (ops : List (Op α ι)) :
    ∃ done : List (Op α ι), (t.attempt ops).2 = t.run done := by
  induction ops generalizing t with
  | nil => exact ⟨[], rfl⟩
  | cons op ops ih =>
      unfold attempt
      rcases t.serve_cases op with ⟨ok, _⟩ | ⟨⟨e, refused⟩, _⟩
      · obtain ⟨done, hdone⟩ := ih (t.after op)
        rw [ok]
        exact ⟨op :: done, hdone⟩
      · rw [refused]
        exact ⟨[], rfl⟩

theorem exists_run_transact (t : Tracker σ α) (ops : List (Op α ι)) :
    ∃ done : List (Op α ι), (t.transact ops).2 = t.run done := by
  obtain ⟨done, hdone⟩ := t.exists_run_attempt ops
  unfold transact
  split
  · next t' accepted =>
      rw [accepted] at hdone
      exact ⟨done, hdone⟩
  · next e t' refused =>
      rw [refused] at hdone
      refine ⟨done ++ [.setTransform t.current.forward], ?_⟩
      rw [run, List.foldl_append]
      exact congrArg (·.after (.setTransform t.current.forward)) hdone

end

section

variable {α : Type} {base : List (RecordingSurface.Snapshot α)}
  {t t' : Tracker (RecordingSurface α) α}

theorem Lockstep.transform_eq (h : Lockstep base t) (h' : Lockstep base t')
    (current : t.current = t'.current) :
    t.surface.state.transform = t'.surface.state.transform := by
  rw [h.transform, h'.transform, current]

theorem Lockstep.saved_eq (h : Lockstep base t) (h' : Lockstep base t')
    (stack : t.stack = t'.stack) :
    t.surface.stack.map (·.transform) = t'.surface.stack.map (·.transform) := by
  obtain ⟨top, hstack, htop⟩ := h.saved
  obtain ⟨top', hstack', htop'⟩ := h'.saved
  rw [hstack, hstack', List.map_append, List.map_append, htop, htop', stack]

end

variable {K σ ι : Type} [Field K] [LinearOrder K] [Elementary K]

/-- `t'` is `t` with `m` composed onto its transform. -/
structure Composes (m : Affine K) (t t' : Tracker σ K) : Prop where
  exact : t'.current.Exact
  forward : t'.current.forward = t.current.forward * m
  stack : t'.stack = t.stack

theorem Composes.trans {m n : Affine K} {t t' t'' : Tracker σ K} (h : Composes m t t')
    (h' : Composes n t' t'') : Composes (m * n) t t'' where
  exact := h'.exact
  forward := by rw [h'.forward, h.forward, Affine.mul_assoc]
  stack := h'.stack.trans h.stack

theorem Composes.det {m : Affine K} {t t' : Tracker σ K} (h : Composes m t t') :
    t'.current.det = t.current.det * m.det := by
  rw [Transform.det, h.forward, Affine.det_mul]
  rfl

variable [IsStrictOrderedRing K] [DrawingSurface σ K ι]

theorem exists_composes (t : Tracker σ K) {op : Op K ι} {m : Affine K}
    (composed : op.composed? = some m) (inside : InBounds (t.current.det * m.det)) :
    ∃ t', t.serve op = (.ok (), t') ∧ Composes m t t' := by
  obtain ⟨u, ok⟩ := Transform.exists_compose_eq_ok_iff.mpr inside
  refine ⟨draw { t with current := u } op.call, ?_, ?_⟩
  · rw [serve_of_composed t composed, ok]
    rfl
  · exact ⟨Transform.exact_of_ofAffine ok, Transform.forward_of_ofAffine ok, rfl⟩

theorem serve_eq_error (t : Tracker σ K) {op : Op K ι} {m : Affine K}
    (composed : op.composed? = some m) (outside : ¬InBounds (t.current.det * m.det)) :
    t.serve op = (.error ⟨t.current.det * m.det⟩, t) := by
  rw [serve_of_composed t composed, Transform.compose_eq_error_iff.mpr ⟨outside, rfl⟩]
  rfl

theorem exists_composes_shift {t : Tracker σ K} (h : t.current.Exact) (v : Vec K) :
    ∃ t', t.serve (.translate v : Op K ι) = (.ok (), t') ∧ Composes (.shift v) t t' := by
  refine t.exists_composes rfl ?_
  rw [Affine.det_shift, mul_one]
  exact h.bounds

/-- Either all three steps are carried out, or the second one is refused and the first undone. -/
theorem transact_zoomSteps {t : Tracker σ K} (h : t.current.Exact) (focus : Point K) (factor : K) :
    let stepwise := t.transact (zoomSteps focus factor : List (Op K ι))
    (InBounds (t.current.det * factor ^ 2) ∧ stepwise.1 = .ok () ∧
      Composes (Pointer.zoomMap focus factor) t stepwise.2) ∨
    (¬InBounds (t.current.det * factor ^ 2) ∧
      stepwise.1 = .error ⟨t.current.det * factor ^ 2⟩ ∧
      stepwise.2.current = t.current ∧ stepwise.2.stack = t.stack) := by
  obtain ⟨t₁, ok₁, h₁⟩ := exists_composes_shift h focus.toVec
  have area : t₁.current.det * (Affine.scaling factor factor).det = t.current.det * factor ^ 2 := by
    rw [h₁.det, Affine.det_shift, Affine.det_scaling, mul_one, sq]
  have scales : (Op.scale factor factor : Op K ι).composed? = some (.scaling factor factor) := rfl
  by_cases inside : InBounds (t.current.det * factor ^ 2)
  · rw [← area] at inside
    obtain ⟨t₂, ok₂, h₂⟩ := t₁.exists_composes scales inside
    obtain ⟨t₃, ok₃, h₃⟩ := exists_composes_shift h₂.exact (-focus.toVec)
    have all : t.transact (zoomSteps focus factor : List (Op K ι)) = (.ok (), t₃) := by
      simp only [transact, attempt, zoomSteps, ok₁, ok₂, ok₃]
    rw [area] at inside
    refine .inl ⟨inside, ?_, ?_⟩
    · rw [all]
    · rw [all]
      exact (h₁.trans h₂).trans h₃
  · have refused := t₁.serve_eq_error scales (by rwa [area])
    rw [area] at refused
    have none : t.transact (zoomSteps focus factor : List (Op K ι)) =
        (.error ⟨t.current.det * factor ^ 2⟩, t₁.after (.setTransform t.current.forward)) := by
      simp only [transact, attempt, zoomSteps, ok₁, refused]
    have back := after_setTransform (t := t₁) h.ofAffine_forward
    refine .inr ⟨inside, ?_, ?_, ?_⟩
    · rw [none]
    · rw [none, back]
    · rw [none, back]
      exact h₁.stack

end Tracker

namespace Pointer

variable {K : Type} [Field K] [LinearOrder K] [Elementary K] [IsStrictOrderedRing K]

theorem zoom_eq_transact {σ ι : Type} [DrawingSurface σ K ι] {v : Viewport σ K ι}
    (checked : v.tracker.AllChecked) (p : Pointer K) (clicks : K) :
    let focus := v.transformedPoint p.lastPosition
    let factor := Scalar.pow p.config.scaleFactor clicks
    let o := p.zoom v clicks
    let stepwise := v.tracker.transact (Tracker.zoomSteps focus factor)
    (o.response = .zoomed factor focus ↔ stepwise.1 = .ok ()) ∧
    (o.response = .rejected ↔ ∃ e, stepwise.1 = .error e) ∧
    o.target.tracker.current = stepwise.2.current ∧
    o.target.tracker.stack = stepwise.2.stack := by
  intro focus factor o stepwise
  have exact : v.transform.Exact := checked.current.exact
  have h : Zooms p v clicks o := p.zooms_zoom v clicks
  have under : (⟨v, p⟩ : Pane σ K ι).viewport.tracker.AllChecked := checked
  have checked' : o.target.tracker.AllChecked :=
    Pane.allChecked_after under (.pointer (.zoom clicks))
  have saved : o.target.tracker.stack = v.tracker.stack := (Viewport.keeps_of_reaches h.reaches).1
  rcases h.inBounds_or_not with ⟨inside, response⟩ | ⟨outside, response, target⟩ <;>
    rcases Tracker.transact_zoomSteps exact focus factor with
      ⟨inside', done, composes⟩ | ⟨outside', undone, current, stack⟩
  · have forward : o.target.transform.forward = v.transform.forward * zoomMap focus factor :=
      h.forward (by rw [response]; rfl)
    have done' : stepwise.1 = .ok () := done
    refine ⟨iff_of_true response done', ?_, ?_, saved.trans composes.stack.symm⟩
    · simp [response, done']
    · exact checked'.current.exact.ext composes.exact (forward.trans composes.forward.symm)
  · exact absurd inside outside'
  · exact absurd inside' outside
  · have undone' : stepwise.1 = .error _ := undone
    refine ⟨?_, iff_of_true response ⟨_, undone'⟩, ?_, saved.trans stack.symm⟩
    · simp [response, undone']
    · rw [target]
      exact current.symm

/-- In exact numbers, on any viewport that requests have led to: a zoom is carried out, or refused,
exactly if the zoom step by step is, with the transform put back where a step is refused. Both
leave the same transform, inverse included, and the same transforms saved; and a surface that
keeps transforms is left with the same ones, in place and saved. -/
theorem zoom_is_three_requests (p : Pointer K) (clicks : K) :
    let factor := Scalar.pow p.config.scaleFactor clicks
    (∀ (σ ι : Type) [DrawingSurface σ K ι] (surface : σ) (config : PanZoomConfig K)
      (before : List (Pane.Op K ι)),
      let v := ((Pane.ofSurface surface config).run before).viewport
      let focus := v.transformedPoint p.lastPosition
      let o := p.zoom v clicks
      let stepwise := v.tracker.transact (Tracker.zoomSteps focus factor)
      (o.response = .zoomed factor focus ↔ stepwise.1 = .ok ()) ∧
      (o.response = .rejected ↔ ∃ e, stepwise.1 = .error e) ∧
      o.target.tracker.current = stepwise.2.current ∧
      o.target.tracker.stack = stepwise.2.stack) ∧
    ∀ (surface : RecordingSurface K) (config : PanZoomConfig K)
      (before : List (Pane.Op K (ImageHandle K))),
      let v := ((Pane.ofSurface surface config).run before).viewport
      let focus := v.transformedPoint p.lastPosition
      let zoomed := (p.zoom v clicks).target.tracker.surface
      let stepped := (v.tracker.transact (Tracker.zoomSteps focus factor)).2.surface
      zoomed.state.transform = stepped.state.transform ∧
      zoomed.stack.map (·.transform) = stepped.stack.map (·.transform) := by
  intro factor
  refine ⟨?_, ?_⟩
  · intro σ ι _ surface config before
    exact zoom_eq_transact (Pane.allChecked_run_ofSurface surface config before) p clicks
  · intro surface config before v focus zoomed stepped
    have checked : v.tracker.AllChecked := Pane.allChecked_run_ofSurface surface config before
    have start : Tracker.Lockstep surface.stack v.tracker :=
      Pane.run_induction (Tracker.lockstep_ofSurface surface) Tracker.Lockstep.step before
    let pane : Pane (RecordingSurface K) K (ImageHandle K) := ⟨v, p⟩
    have under : Tracker.Lockstep surface.stack pane.viewport.tracker := start
    have hzoomed : Tracker.Lockstep surface.stack (p.zoom v clicks).target.tracker :=
      Pane.after_induction under Tracker.Lockstep.step (.pointer (.zoom clicks))
    have hstepped : Tracker.Lockstep surface.stack
        (v.tracker.transact (Tracker.zoomSteps focus factor)).2 := by
      obtain ⟨done, hdone⟩ := v.tracker.exists_run_transact (Tracker.zoomSteps focus factor)
      rw [hdone]
      exact Tracker.run_induction start Tracker.Lockstep.step done
    obtain ⟨_, _, current, stack⟩ := zoom_eq_transact checked p clicks
    exact ⟨hzoomed.transform_eq hstepped current, hzoomed.saved_eq hstepped stack⟩

theorem mirrored_view_zooms_in_three_requests :
    let surface : RecordingSurface ℚ := .ofSize ⟨800, 600⟩
    let before : List (Pane.Op ℚ (ImageHandle ℚ)) :=
      [.tracker (.transform ⟨2, 1, -1, 2, 30, 40⟩), .tracker .save, .tracker (.scale 1 (-1))]
    let v := ((Pane.ofSurface surface .standard).run before).viewport
    let p : Pointer ℚ := ⟨⟨10, 40, 1⟩, ⟨7, 9⟩, none⟩
    let stepwise (clicks : ℚ) := v.tracker.transact
      (Tracker.zoomSteps (v.transformedPoint p.lastPosition) (Scalar.pow 10 clicks))
    ((stepwise 2).1.isOk = true ∧ (stepwise (-7)).1.isOk = false) ∧
    (p.zoom v 2).target.tracker.current = (stepwise 2).2.current ∧
    (p.zoom v 2).target.tracker.surface.state.transform =
      (stepwise 2).2.surface.state.transform ∧
    (p.zoom v (-7)).response = .rejected ∧
    (p.zoom v (-7)).target.tracker.current = (stepwise (-7)).2.current := by
  intro surface before v p stepwise
  have carriedOut : (stepwise 2).1.isOk = true := by decide +kernel
  have undone : (stepwise (-7)).1.isOk = false := by decide +kernel
  obtain ⟨transforms, surfaces⟩ := zoom_is_three_requests p 2
  obtain ⟨_, _, current, _⟩ := transforms _ _ surface .standard before
  obtain ⟨_, refuses, current', _⟩ :=
    (zoom_is_three_requests p (-7)).1 _ _ surface .standard before
  exact ⟨⟨carriedOut, undone⟩, current, (surfaces surface .standard before).1,
    refuses.mpr (exists_error_of_not_isOk undone), current'⟩

end Pointer

end GraphLens
