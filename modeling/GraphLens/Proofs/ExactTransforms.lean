import GraphLens.Proofs.Dragging

namespace GraphLens

section

variable {K : Type} [Field K] [LinearOrder K] [Elementary K]

namespace Affine

theorem inverse_inverse (m : Affine K) (h : m.det ≠ 0) : m.inverse.inverse = m := by
  have hm : m.a * m.d - m.b * m.c ≠ 0 := h
  rw [inverse, m.det_inverse h, one_div_one_div]
  simp only [inverse, det]
  apply Affine.ext
  · field_simp
  · field_simp
  · field_simp
  · field_simp
  · field_simp
    ring
  · field_simp
    ring

theorem det_rotation {angle : K}
    (circle : Scalar.cos angle ^ 2 + Scalar.sin angle ^ 2 = 1) : (rotation angle).det = 1 := by
  simp only [rotation, det]
  rw [← circle]
  ring

end Affine

theorem Transform.multiply_assoc {s t u st tu : Transform K} (hst : s.multiply t = .ok st)
    (htu : t.multiply u = .ok tu) : st.multiply u = s.multiply tu := by
  have left : st.forward = s.forward * t.forward := forward_of_ofAffine hst
  have right : tu.forward = t.forward * u.forward := forward_of_ofAffine htu
  rw [multiply, multiply, compose, compose, left, right, Affine.mul_assoc]

theorem Transform.mapPoint_multiply {s t st : Transform K} (hst : s.multiply t = .ok st)
    (p : Point K) : st.mapPoint p = s.mapPoint (t.mapPoint p) := by
  have forward : st.forward = s.forward * t.forward := forward_of_ofAffine hst
  rw [mapPoint, forward, Affine.apply_mul]
  rfl

variable [IsStrictOrderedRing K]

theorem inBounds_one_div_iff {d : K} (h : d ≠ 0) : InBounds (1 / d) ↔ InBounds d := by
  have hpos : 0 < |d| := abs_pos.mpr h
  rw [InBounds, InBounds, abs_div, abs_one, and_comm]
  refine and_congr ?_ ?_
  · exact one_div_le_one_div hpos degeneracyEpsilon_pos
  · exact le_div_comm₀ degeneracyEpsilon_pos hpos

namespace Transform

theorem Exact.swap {t : Transform K} (h : t.Exact) : Exact ⟨t.inverse, t.forward⟩ where
  bounds := by
    rw [h.inverse, Affine.det_inverse _ h.bounds.ne_zero]
    exact (inBounds_one_div_iff h.bounds.ne_zero).mpr h.bounds
  inverse := by rw [h.inverse, Affine.inverse_inverse _ h.bounds.ne_zero]

theorem Exact.invert {t : Transform K} (h : t.Exact) :
    t.invert = .ok ⟨t.inverse, t.forward⟩ := by
  have sound : t.inverse.isSound = true := t.inverse.isSound_iff.mpr h.swap.bounds.1
  rw [Affine.isSound, Bool.and_eq_true, Bool.not_eq_true'] at sound
  simp [Transform.invert, sound.2]

theorem reachable_of_inBounds {m : Affine K} (h : InBounds m.det) :
    Reachable (⟨m, m.inverse⟩ : Transform K) :=
  .ofAffine (ofAffine_eq_ok_iff.mpr ⟨h, rfl⟩)

theorem Reachable.exact {t : Transform K} (h : t.Reachable) : t.Exact := by
  induction h with
  | identity => exact exact_identity
  | ofAffine ok | compose _ ok | translate _ ok | scale _ ok | rotate _ ok | multiply _ _ ok =>
      exact exact_of_ofAffine ok
  | invert _ ok ih =>
      rw [ih.invert] at ok
      cases ok
      exact ih.swap

/-- In exact numbers the area factor alone decides: a map is accepted exactly if its area factor is
in bounds, and onto a reachable transform exactly if the product of both area factors is. So moves
and turns are always accepted and no pan is ever refused, a scaling is refused exactly if it leads
out of bounds, and a map that has an inverse is accepted exactly if its inverse is. -/
theorem accepted_iff_area_factor_in_bounds :
    (∀ m : Affine K, (∃ t, ofAffine m = .ok t) ↔ InBounds m.det) ∧
    (∀ t : Transform K, t.Reachable →
      (∀ m, (∃ u, t.compose m = .ok u) ↔ InBounds (t.det * m.det)) ∧
      (∀ v, ∃ u, t.translate v = .ok u) ∧
      (∀ angle : K, Scalar.cos angle ^ 2 + Scalar.sin angle ^ 2 = 1 →
        ∃ u, t.rotate angle = .ok u) ∧
      ∀ sx sy, (∃ e, t.scale sx sy = .error e) ↔ ¬InBounds (sx * sy * t.det)) ∧
    (∀ (σ ι : Type) [DrawingSurface σ K ι] (surface : σ) (config : PanZoomConfig K)
      (before : List (Pane.Op K ι)) (pos : Point K),
      (((Pane.ofSurface surface config).run before).handle (.move pos)).2.1 ≠ .rejected) ∧
    ∀ m : Affine K, m.det ≠ 0 →
      ((∃ t, ofAffine m = .ok t) ↔ ∃ t, ofAffine m.inverse = .ok t) := by
  refine ⟨fun m => exists_ofAffine_eq_ok_iff, ?_, ?_, ?_⟩
  · intro t ht
    refine ⟨fun m => exists_compose_eq_ok_iff, ?_, ?_, ?_⟩
    · intro v
      exact ht.exact.exists_compose (Affine.det_shift v)
    · intro angle circle
      exact ht.exact.exists_compose (Affine.det_rotation circle)
    · intro sx sy
      have hdet : t.det * (Affine.scaling sx sy).det = sx * sy * t.det := by
        rw [Affine.det_scaling, mul_comm]
      simp only [scale, compose_eq_error_iff, hdet, exists_and_left, exists_eq, and_true]
  · intro σ ι _ surface config before pos
    exact Pane.response_move_ne_rejected (Pane.allChecked_run_ofSurface surface config before) pos
  · intro m hm
    rw [exists_ofAffine_eq_ok_iff, exists_ofAffine_eq_ok_iff, Affine.det_inverse m hm,
      inBounds_one_div_iff hm]

theorem flipped_view_accepts_by_area_factor :
    let scaled : Affine ℚ := .scaling 4 (-1 / 2)
    let t : Transform ℚ := ⟨scaled.inverse, scaled⟩
    let wide : Affine ℚ := .scaling (10 ^ 7) (10 ^ 6)
    (t.Reachable ∧ t.det = -1 / 2 ∧ wide.det = 10 ^ 13) ∧
    (∃ u, t.rotate 0 = .ok u) ∧
    (∃ u, t.compose ⟨10 ^ 6, 3, 0, 10 ^ 6, 5, 6⟩ = .ok u) ∧
    (∃ e, t.scale (1 / 10 ^ 6) (1 / 10 ^ 6) = .error e) ∧
    ¬∃ u, ofAffine wide.inverse = .ok u := by
  intro scaled t wide
  obtain ⟨alone, onto, _, inverses⟩ := accepted_iff_area_factor_in_bounds (K := ℚ)
  have bounds : InBounds scaled.det := ⟨by decide +kernel, by decide +kernel⟩
  have made := reachable_of_inBounds bounds
  have reachable : t.Reachable := .invert made made.exact.invert
  have det : t.det = -1 / 2 := by decide +kernel
  have hwide : wide.det = 10 ^ 13 := by decide +kernel
  obtain ⟨composes, _, rotates, scales⟩ := onto t reachable
  refine ⟨⟨reachable, det, hwide⟩, rotates 0 (by decide +kernel), ?_, ?_, ?_⟩
  · rw [composes]
    exact ⟨by decide +kernel, by decide +kernel⟩
  · rw [scales]
    exact fun inside => absurd inside.1 (by decide +kernel)
  · rw [← inverses wide (by rw [hwide]; norm_num), alone]
    exact fun inside => absurd inside.2 (by decide +kernel)

theorem Exact.mapPointInverse_multiply {s t st : Transform K} (hs : s.Exact) (ht : t.Exact)
    (hst : s.multiply t = .ok st) (p : Point K) :
    st.mapPointInverse p = t.mapPointInverse (s.mapPointInverse p) := by
  have exact : st.Exact := exact_of_ofAffine hst
  let q := t.mapPointInverse (s.mapPointInverse p)
  have shown : st.mapPoint q = p := by
    rw [mapPoint_multiply hst, ht.mapPoint_mapPointInverse, hs.mapPoint_mapPointInverse]
  calc st.mapPointInverse p
    _ = st.mapPointInverse (st.mapPoint q) := by rw [shown]
    _ = q := exact.mapPointInverse_mapPoint q

/-- In exact numbers, whatever a transform was made by, its two maps undo each other; the product of
two transforms is the one map after the other, and its inverse the inverses in the other order; it
makes no difference how a product of three is bracketed; and transforms with the same map are the
same, with their inverses. -/
theorem reachable_transforms_act_as_maps {s t : Transform K} (hs : s.Reachable)
    (ht : t.Reachable) :
    (∀ p, s.mapPointInverse (s.mapPoint p) = p ∧ s.mapPoint (s.mapPointInverse p) = p) ∧
    (∀ st, s.multiply t = .ok st → ∀ p,
      st.mapPoint p = s.mapPoint (t.mapPoint p) ∧
      st.mapPointInverse p = t.mapPointInverse (s.mapPointInverse p)) ∧
    (∀ u st tu, s.multiply t = .ok st → t.multiply u = .ok tu →
      st.multiply u = s.multiply tu) ∧
    (s.forward = t.forward → s = t) := by
  refine ⟨?_, ?_, ?_, ?_⟩
  · intro p
    exact ⟨hs.exact.mapPointInverse_mapPoint p, hs.exact.mapPoint_mapPointInverse p⟩
  · intro st hst p
    exact ⟨mapPoint_multiply hst p, hs.exact.mapPointInverse_multiply ht.exact hst p⟩
  · intro u st tu hst htu
    exact multiply_assoc hst htu
  · exact hs.exact.ext ht.exact

theorem flipped_and_sheared_views_act_as_maps :
    let scaled : Affine ℚ := .scaling 4 (-1 / 2)
    let flipped : Transform ℚ := ⟨scaled.inverse, scaled⟩
    let narrow : Affine ℚ := .scaling (1 / 4) (-2)
    let shear : Affine ℚ := ⟨1, 2, 3, 1, 5, 7⟩
    let sheared : Transform ℚ := ⟨shear, shear.inverse⟩
    let product : Transform ℚ :=
      ⟨flipped.forward * shear, (flipped.forward * shear).inverse⟩
    (flipped.Reachable ∧ sheared.Reachable ∧ flipped.multiply sheared = .ok product) ∧
    product.mapPointInverse ⟨3, 4⟩ =
      sheared.mapPointInverse (flipped.mapPointInverse ⟨3, 4⟩) ∧
    flipped = ⟨narrow, narrow.inverse⟩ := by
  intro scaled flipped narrow shear sheared product
  have made : Reachable ⟨scaled, scaled.inverse⟩ :=
    reachable_of_inBounds ⟨by decide +kernel, by decide +kernel⟩
  have hflipped : flipped.Reachable := .invert made made.exact.invert
  have hnarrow : Reachable ⟨narrow, narrow.inverse⟩ :=
    reachable_of_inBounds ⟨by decide +kernel, by decide +kernel⟩
  have hsheared : sheared.Reachable :=
    reachable_of_inBounds ⟨by decide +kernel, by decide +kernel⟩
  have ok : flipped.multiply sheared = .ok product :=
    ofAffine_eq_ok_iff.mpr ⟨⟨by decide +kernel, by decide +kernel⟩, rfl⟩
  have same : scaled.inverse = narrow := by
    apply Affine.ext <;> decide +kernel
  refine ⟨⟨hflipped, hsheared, ok⟩, ?_, ?_⟩
  · exact ((reachable_transforms_act_as_maps hflipped hsheared).2.1 product ok ⟨3, 4⟩).2
  · exact (reachable_transforms_act_as_maps hflipped hnarrow).2.2.2 same

end Transform

end

end GraphLens
