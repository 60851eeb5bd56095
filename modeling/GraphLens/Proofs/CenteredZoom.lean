import GraphLens.Proofs.ZoomLevel

namespace GraphLens

section

variable {K : Type} [Field K] [LinearOrder K] [Elementary K]

/-- The place `s` times as far from `center` as `q`, in the same direction. -/
def Point.stretch (center : Point K) (s : K) (q : Point K) : Point K :=
  ⟨center.x + s * (q.x - center.x), center.y + s * (q.y - center.y)⟩

namespace Affine

theorem det_zoomMap (focus : Point K) (factor : K) :
    (Pointer.zoomMap focus factor).det = factor ^ 2 := by
  rw [Pointer.zoomMap, det_mul, det_mul, det_shift, det_shift, det_scaling]
  ring

theorem apply_mul_zoomMap (m : Affine K) (focus q : Point K) (factor : K) :
    (m * Pointer.zoomMap focus factor).apply q = (m.apply focus).stretch factor (m.apply q) := by
  obtain ⟨x, y⟩ := focus
  change (m * (shift ⟨x, y⟩ * scaling factor factor * shift ⟨-x, -y⟩)).apply q = _
  simp only [mul_def, mul, shift, scaling, apply, Point.stretch, Point.mk.injEq]
  constructor <;> ring

end Affine

variable [IsStrictOrderedRing K]

theorem Transform.Exact.mapPoint_of_zoomMap {t u : Transform K} (ht : t.Exact) {pos : Point K}
    {factor : K} (h : u.forward = t.forward * Pointer.zoomMap (t.mapPointInverse pos) factor)
    (q : Point K) : u.mapPoint q = pos.stretch factor (t.mapPoint q) := by
  have hpos : t.forward.apply (t.mapPointInverse pos) = pos := ht.mapPoint_mapPointInverse pos
  rw [mapPoint, h, Affine.apply_mul_zoomMap, hpos, mapPoint]

end

namespace Pointer

variable {K σ ι : Type} [Field K] [LinearOrder K] [Elementary K] [IsStrictOrderedRing K]
  [DrawingSurface σ K ι] {p : Pointer K} {v : Viewport σ K ι} {clicks : K}
  {o : Outcome (Viewport σ K ι) K}

omit [IsStrictOrderedRing K] in
theorem Zooms.forward (h : Zooms p v clicks o) (repaints : o.response.repaints = true) :
    o.target.transform.forward =
      v.transform.forward * zoomMap (p.focus v) (p.zoomFactor clicks) := by
  cases h with
  | accepted ok => exact forward_redraw_of_apply ok
  | refused error => cases repaints

theorem Zooms.inBounds_or_not (h : Zooms p v clicks o) :
    (InBounds (v.transform.det * p.zoomFactor clicks ^ 2) ∧
      o.response = .zoomed (p.zoomFactor clicks) (p.focus v)) ∨
    (¬InBounds (v.transform.det * p.zoomFactor clicks ^ 2) ∧ o.response = .rejected ∧
      o.target = v) := by
  rw [← Affine.det_zoomMap (p.focus v), ← Transform.exists_compose_eq_ok_iff]
  cases h with
  | accepted ok => exact .inl ⟨⟨_, Viewport.compose_of_apply ok⟩, rfl⟩
  | refused error =>
      refine .inr ⟨?_, rfl, Viewport.eq_of_apply_eq_error error⟩
      rintro ⟨u, accepted⟩
      obtain ⟨v', ok, _⟩ := Viewport.apply_of_compose accepted
      cases error.symm.trans ok

/-- Whatever a zoom computes its factor `f` from and wherever the pointer is, on any viewport that
requests have led to: the zoom is carried out exactly if `f²` times the area factor of the
transform is in bounds, and refused otherwise. If it is carried out, the content point under the
pointer, which it reports, stays where it is, the linear part becomes `f` times what it was, and
every content point is shown `f` times as far from the pointer as before. If it is refused, the
viewport is as it was, with its transforms, its image and its surface. -/
theorem zoom_stretches_about_pointer (surface : σ) (config : PanZoomConfig K)
    (before : List (Pane.Op K ι)) (p : Pointer K) (clicks : K) :
    let v := ((Pane.ofSurface surface config).run before).viewport
    let o := p.zoom v clicks
    let t := v.transform
    let u := o.target.transform
    let pos := p.lastPosition
    let f := Scalar.pow p.config.scaleFactor clicks
    let accepted := degeneracyEpsilon ≤ f ^ 2 * |t.det| ∧ f ^ 2 * |t.det| ≤ 1 / degeneracyEpsilon
    (o.response = .zoomed f (t.mapPointInverse pos) ↔ accepted) ∧
    (o.response = .rejected ↔ ¬accepted) ∧
    (accepted →
      u.mapPointInverse pos = t.mapPointInverse pos ∧
      u.forward.linear = t.forward.linearTimes f ∧
      ∀ q, u.mapPoint q = pos.stretch f (t.mapPoint q)) ∧
    (¬accepted → o.target = v) := by
  intro v o t u pos f accepted
  have checked : v.tracker.AllChecked :=
    Pane.allChecked_run (Tracker.allChecked_ofSurface surface) before
  have under : (⟨v, p⟩ : Pane σ K ι).viewport.tracker.AllChecked := checked
  have checked' : o.target.tracker.AllChecked :=
    Pane.allChecked_after under (.pointer (.zoom clicks))
  have h : Zooms p v clicks o := p.zooms_zoom v clicks
  have habs : |t.det * f ^ 2| = f ^ 2 * |t.det| := by
    rw [abs_mul, abs_of_nonneg (sq_nonneg f), mul_comm]
  have hbounds : InBounds (t.det * f ^ 2) ↔ accepted := by rw [InBounds, habs]
  rcases h.inBounds_or_not with ⟨inside, response⟩ | ⟨outside, response, target⟩
  · have yes : accepted := hbounds.mp inside
    have forward : u.forward = t.forward * zoomMap (t.mapPointInverse pos) f :=
      h.forward (by rw [response]; rfl)
    have carriedOut : o.response ≠ .rejected := by simp [response]
    refine ⟨iff_of_true response yes, iff_of_false carriedOut (not_not_intro yes),
      fun _ => ⟨?_, ?_, ?_⟩, fun no => absurd yes no⟩
    · exact checked.current.exact.mapPointInverse_of_zoomMap checked'.current.exact forward
    · rw [forward, Affine.linear_mul_zoomMap]
    · exact checked.current.exact.mapPoint_of_zoomMap forward
  · have no : ¬accepted := fun yes => outside (hbounds.mpr yes)
    have dropped : o.response ≠ .zoomed f (t.mapPointInverse pos) := by simp [response]
    exact ⟨iff_of_false dropped no, iff_of_true response no, fun yes => absurd yes no,
      fun _ => target⟩

theorem mirrored_view_stretches_about_pointer :
    let surface : RecordingSurface ℚ := .ofSize ⟨800, 600⟩
    let before : List (Pane.Op ℚ (ImageHandle ℚ)) :=
      [.tracker (.transform ⟨2, 1, -1, 2, 30, 40⟩), .tracker (.scale 1 (-1))]
    let v := ((Pane.ofSurface surface .standard).run before).viewport
    let p : Pointer ℚ := ⟨⟨10, 40, 1⟩, ⟨7, 9⟩, none⟩
    let t := v.transform
    let accepted (f : ℚ) : Prop :=
      degeneracyEpsilon ≤ f ^ 2 * |t.det| ∧ f ^ 2 * |t.det| ≤ 1 / degeneracyEpsilon
    (t.det = -5 ∧ accepted (Scalar.pow 10 2) ∧ ¬accepted (Scalar.pow 10 (-7))) ∧
    (p.zoom v 2).target.transform.mapPoint ⟨1, 2⟩ =
      Point.stretch ⟨7, 9⟩ (Scalar.pow 10 2) (t.mapPoint ⟨1, 2⟩) ∧
    (p.zoom v (-7)).target = v := by
  intro surface before v p t accepted
  have det : t.det = -5 := by decide +kernel
  have wide : accepted (Scalar.pow 10 2) := by decide +kernel
  have narrow : ¬accepted (Scalar.pow 10 (-7)) := by decide +kernel
  obtain ⟨_, _, zoomed, _⟩ := zoom_stretches_about_pointer surface .standard before p 2
  obtain ⟨_, _, _, refused⟩ := zoom_stretches_about_pointer surface .standard before p (-7)
  exact ⟨⟨det, wide, narrow⟩, (zoomed wide).2.2 _, refused narrow⟩

end Pointer

end GraphLens
