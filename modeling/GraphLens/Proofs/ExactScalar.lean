import Mathlib.Algebra.Order.Field.Basic
import Mathlib.Data.Rat.Cast.Order
import Mathlib.Tactic.FieldSimp
import Mathlib.Tactic.NormNum
import Mathlib.Tactic.Ring
import GraphLens.Proofs.TrackerSteps

namespace GraphLens

/-- Functions on the numbers of `K` of which nothing else is known. -/
class Elementary (K : Type) where
  cos : K → K
  sin : K → K
  pow : K → K → K

/-- Exact numbers as coordinates: none is infinite or undefined. The operations are those of the
field, by whichever of the two a statement finds them. -/
instance Scalar.ofField {K : Type} [Field K] [LinearOrder K] [Elementary K] : Scalar K where
  zero := 0
  one := 1
  add := (· + ·)
  sub := (· - ·)
  mul := (· * ·)
  div := (· / ·)
  neg := (- ·)
  ofScientific := OfScientific.ofScientific
  lt := (· < ·)
  le := (· ≤ ·)
  beq x y := decide (x = y)
  decidableLT := inferInstance
  decidableLE := inferInstance
  isFinite _ := true
  isNaN _ := false
  abs x := |x|
  cos := Elementary.cos
  sin := Elementary.sin
  pow := Elementary.pow

instance : Elementary ℚ := ⟨fun _ => 1, fun _ => 0, fun x y => x ^ y.floor⟩

attribute [ext] Affine

variable {K : Type} [Field K] [LinearOrder K] [Elementary K]

namespace Affine

theorem mul_def (m n : Affine K) : m * n = m.mul n := rfl

theorem det_mul (m n : Affine K) : (m * n).det = m.det * n.det := by
  simp only [mul_def, mul, det]
  ring

theorem det_identity : (identity : Affine K).det = 1 := by
  simp only [identity, det]
  ring

theorem det_shift (v : Vec K) : (shift v).det = 1 := by
  simp only [shift, det]
  ring

theorem det_scaling (sx sy : K) : (scaling sx sy).det = sx * sy := by
  simp only [scaling, det]
  ring

theorem det_inverse (m : Affine K) (h : m.det ≠ 0) : m.inverse.det = 1 / m.det := by
  have hm : m.a * m.d - m.b * m.c ≠ 0 := h
  simp only [inverse, det]
  field_simp

protected theorem mul_assoc (m n o : Affine K) : m * n * o = m * (n * o) := by
  simp only [mul_def, mul, Affine.mk.injEq]
  refine ⟨?_, ?_, ?_, ?_, ?_, ?_⟩ <;> ring

theorem apply_mul (m n : Affine K) (p : Point K) : (m * n).apply p = m.apply (n.apply p) := by
  simp only [mul_def, mul, apply, Point.mk.injEq]
  constructor <;> ring

theorem apply_shift_sub (m : Affine K) (p q : Point K) :
    (m * shift (p - q)).apply q = m.apply p := by
  change (m * shift ⟨p.x - q.x, p.y - q.y⟩).apply q = m.apply p
  rw [apply_mul]
  congr 1
  obtain ⟨x, y⟩ := p
  simp only [shift, apply, Point.mk.injEq]
  constructor <;> ring

theorem inverse_apply_apply (m : Affine K) (h : m.det ≠ 0) (p : Point K) :
    m.inverse.apply (m.apply p) = p := by
  have hm : m.a * m.d - m.b * m.c ≠ 0 := h
  obtain ⟨x, y⟩ := p
  simp only [inverse, det, apply, Point.mk.injEq]
  constructor <;> field_simp <;> ring

theorem apply_inverse_apply (m : Affine K) (h : m.det ≠ 0) (p : Point K) :
    m.apply (m.inverse.apply p) = p := by
  have hm : m.a * m.d - m.b * m.c ≠ 0 := h
  obtain ⟨x, y⟩ := p
  simp only [inverse, det, apply, Point.mk.injEq]
  constructor <;> field_simp <;> ring

def linear {α : Type} (m : Affine α) : α × α × α × α := (m.a, m.b, m.c, m.d)

theorem linear_mul_shift (m : Affine K) (v : Vec K) : (m * shift v).linear = m.linear := by
  simp only [linear, mul_def, mul, shift, Prod.mk.injEq]
  refine ⟨?_, ?_, ?_, ?_⟩ <;> ring

theorem eq_of_linear_of_apply {m n : Affine K} (hl : m.linear = n.linear) (p : Point K)
    (hp : m.apply p = n.apply p) : m = n := by
  simp only [linear, Prod.mk.injEq] at hl
  obtain ⟨ha, hb, hc, hd⟩ := hl
  simp only [apply, Point.mk.injEq, ha, hb, hc, hd] at hp
  exact Affine.ext ha hb hc hd (add_left_cancel hp.1) (add_left_cancel hp.2)

end Affine

variable [IsStrictOrderedRing K]

theorem degeneracyEpsilon_pos : (0 : K) < degeneracyEpsilon := by
  change (0 : K) < 1e-12
  norm_num

def InBounds (d : K) : Prop := degeneracyEpsilon ≤ |d| ∧ |d| ≤ 1 / degeneracyEpsilon

omit [IsStrictOrderedRing K] in
theorem Affine.isSound_iff (m : Affine K) : m.isSound = true ↔ degeneracyEpsilon ≤ |m.det| := by
  have hfinite : m.isFinite = true := rfl
  have hdegenerate : isDegenerate m.det = decide (|m.det| < degeneracyEpsilon) :=
    Bool.false_or _
  rw [isSound, hfinite, hdegenerate, Bool.true_and, Bool.not_eq_true', decide_eq_false_iff_not]
  exact not_lt

theorem InBounds.ne_zero {d : K} (h : InBounds d) : d ≠ 0 :=
  abs_pos.mp (degeneracyEpsilon_pos.trans_le h.1)

theorem inBounds_one : InBounds (1 : K) := by
  have hle : (degeneracyEpsilon : K) ≤ 1 := by
    change (1e-12 : K) ≤ 1
    norm_num
  refine ⟨by rwa [abs_one], ?_⟩
  rw [abs_one]
  exact (one_le_div degeneracyEpsilon_pos).mpr hle

namespace Transform

theorem ofAffine_eq_ok_iff {m : Affine K} {t : Transform K} :
    ofAffine m = .ok t ↔ InBounds m.det ∧ t = ⟨m, m.inverse⟩ := by
  have hsound : (m.isSound && m.inverse.isSound) = true ↔ InBounds m.det := by
    rw [Bool.and_eq_true, Affine.isSound_iff, Affine.isSound_iff]
    refine and_congr_right fun hm => ?_
    -- The inverse is checked too, and its area factor is the reciprocal: this is the upper bound.
    have hpos : 0 < |m.det| := degeneracyEpsilon_pos.trans_le hm
    rw [Affine.det_inverse m (abs_pos.mp hpos), abs_div, abs_one,
      le_div_comm₀ degeneracyEpsilon_pos hpos]
  unfold ofAffine
  split
  · next h =>
      rw [Except.ok.injEq, eq_comm]
      exact (and_iff_right (hsound.mp h)).symm
  · next h =>
      simp only [reduceCtorEq, false_iff, not_and]
      exact fun hm => absurd (hsound.mpr hm) h

theorem exists_ofAffine_eq_ok_iff {m : Affine K} : (∃ t, ofAffine m = .ok t) ↔ InBounds m.det := by
  constructor
  · rintro ⟨t, ok⟩
    exact (ofAffine_eq_ok_iff.mp ok).1
  · intro bounds
    exact ⟨_, ofAffine_eq_ok_iff.mpr ⟨bounds, rfl⟩⟩

theorem ofAffine_eq_error_iff {m : Affine K} {e : DegenerateError K} :
    ofAffine m = .error e ↔ ¬InBounds m.det ∧ e = ⟨m.det⟩ := by
  rw [← exists_ofAffine_eq_ok_iff]
  unfold ofAffine
  split
  · simp
  · simp [eq_comm]

theorem exists_compose_eq_ok_iff {t : Transform K} {m : Affine K} :
    (∃ u, t.compose m = .ok u) ↔ InBounds (t.det * m.det) := by
  rw [det, ← Affine.det_mul]
  exact exists_ofAffine_eq_ok_iff

theorem compose_eq_error_iff {t : Transform K} {m : Affine K} {e : DegenerateError K} :
    t.compose m = .error e ↔ ¬InBounds (t.det * m.det) ∧ e = ⟨t.det * m.det⟩ := by
  rw [det, ← Affine.det_mul]
  exact ofAffine_eq_error_iff

/-- In bounds, and holding the true inverse. -/
structure Exact (t : Transform K) : Prop where
  bounds : InBounds t.forward.det
  inverse : t.inverse = t.forward.inverse

theorem exact_identity : Exact (identity : Transform K) where
  bounds := by
    rw [identity, Affine.det_identity]
    exact inBounds_one
  inverse := by
    simp only [identity, Affine.inverse, Affine.det, Affine.identity, Affine.mk.injEq]
    norm_num

theorem exact_of_ofAffine {m : Affine K} {t : Transform K} (h : ofAffine m = .ok t) : t.Exact := by
  obtain ⟨hm, rfl⟩ := ofAffine_eq_ok_iff.mp h
  exact ⟨hm, rfl⟩

theorem Exact.ofAffine_forward {t : Transform K} (h : t.Exact) : ofAffine t.forward = .ok t :=
  ofAffine_eq_ok_iff.mpr ⟨h.bounds, congrArg (Transform.mk t.forward) h.inverse⟩

theorem Checked.exact {t : Transform K} (h : t.Checked) : t.Exact := by
  cases h with
  | identity => exact exact_identity
  | accepted sound => exact exact_of_ofAffine sound

theorem Exact.mapPointInverse_mapPoint {t : Transform K} (h : t.Exact) (p : Point K) :
    t.mapPointInverse (t.mapPoint p) = p := by
  rw [mapPointInverse, h.inverse]
  exact t.forward.inverse_apply_apply h.bounds.ne_zero p

theorem Exact.mapPoint_mapPointInverse {t : Transform K} (h : t.Exact) (p : Point K) :
    t.mapPoint (t.mapPointInverse p) = p := by
  rw [mapPointInverse, h.inverse]
  exact t.forward.apply_inverse_apply h.bounds.ne_zero p

omit [IsStrictOrderedRing K] in
theorem Exact.ext {t u : Transform K} (ht : t.Exact) (hu : u.Exact)
    (h : t.forward = u.forward) : t = u := by
  obtain ⟨forward, inverse⟩ := t
  obtain ⟨forward', inverse'⟩ := u
  obtain rfl : forward = forward' := h
  obtain rfl : inverse = inverse' := ht.inverse.trans hu.inverse.symm
  rfl

theorem Exact.exists_compose {t : Transform K} (h : t.Exact) {m : Affine K} (hm : m.det = 1) :
    ∃ u, t.compose m = .ok u := by
  rw [exists_compose_eq_ok_iff, hm, mul_one]
  exact h.bounds

theorem Exact.compose_shift_sub {t : Transform K} (h : t.Exact) (pos q : Point K) :
    ∃ u, t.compose (.shift (t.mapPointInverse pos - q)) = .ok u ∧ u.mapPointInverse pos = q ∧
      u.forward.linear = t.forward.linear := by
  obtain ⟨u, hok⟩ := h.exists_compose (Affine.det_shift (t.mapPointInverse pos - q))
  have hu : u.Exact := exact_of_ofAffine hok
  have hforward : u.forward = t.forward * .shift (t.mapPointInverse pos - q) :=
    forward_of_ofAffine hok
  -- Where `u` shows `q` decides what it finds under `pos`.
  have hpos : u.mapPoint q = pos := by
    rw [mapPoint, hforward, Affine.apply_shift_sub]
    exact h.mapPoint_mapPointInverse pos
  refine ⟨u, hok, ?_, ?_⟩
  · rw [← hpos, hu.mapPointInverse_mapPoint]
  · rw [hforward, Affine.linear_mul_shift]

theorem Exact.eq_of_linear_of_mapPointInverse {t u : Transform K} (ht : t.Exact) (hu : u.Exact)
    (hl : t.forward.linear = u.forward.linear) (p : Point K)
    (hp : t.mapPointInverse p = u.mapPointInverse p) : t = u := by
  refine ht.ext hu (Affine.eq_of_linear_of_apply hl (t.mapPointInverse p) ?_)
  calc t.mapPoint (t.mapPointInverse p)
    _ = p := ht.mapPoint_mapPointInverse p
    _ = u.mapPoint (u.mapPointInverse p) := (hu.mapPoint_mapPointInverse p).symm
    _ = u.mapPoint (t.mapPointInverse p) := by rw [hp]

end Transform

end GraphLens
