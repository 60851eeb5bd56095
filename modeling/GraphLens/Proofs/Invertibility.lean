import Mathlib
import GraphLens.Proofs.TrackerSteps

namespace GraphLens

namespace MachineNumber

open Float.Model Float.Model.UnpackedFloat

theorem compare_swap (x y : UnpackedFloat) : y.compare x = (x.compare y).map Ordering.swap := by
  have signs (s t : Sign) : compare t s = (compare s t).swap := by cases s <;> cases t <;> rfl
  have magnitudes (d e : Int) (m n : Nat) :
      (compare e d).then (compare n m) = ((compare d e).then (compare m n)).swap := by
    have powers : compare e d = (compare d e).swap := Std.OrientedCmp.eq_swap
    have integers : compare n m = (compare m n).swap := Std.OrientedCmp.eq_swap
    rw [Ordering.swap_then, powers, integers]
  cases x with
  | notANumber => cases y <;> rfl
  | infinity s =>
      cases y with
      | infinity t => exact congrArg some (signs s t)
      | notANumber | zero | finite => cases s <;> rfl
  | zero s =>
      cases y with
      | infinity t | finite t => cases t <;> rfl
      | notANumber | zero => rfl
  | finite s m d =>
      cases y with
      | notANumber => rfl
      | infinity t => cases t <;> rfl
      | zero t => cases s <;> rfl
      | finite t n e =>
          cases s <;> cases t
          · exact congrArg some (congrArg Ordering.swap (magnitudes d e m n))
          · rfl
          · rfl
          · exact congrArg some (magnitudes d e m n)

theorem exists_compare {x y : UnpackedFloat} (hx : x.isNaN = false) (hy : y.isNaN = false) :
    ∃ o, x.compare y = some o := by
  cases x with
  | notANumber => cases hx
  | infinity s =>
      cases y with
      | notANumber => cases hy
      | infinity | zero | finite => cases s <;> exact ⟨_, rfl⟩
  | zero s =>
      cases y with
      | notANumber => cases hy
      | infinity t | finite t => cases t <;> exact ⟨_, rfl⟩
      | zero => exact ⟨_, rfl⟩
  | finite s =>
      cases y with
      | notANumber => cases hy
      | infinity t => cases t <;> exact ⟨_, rfl⟩
      | zero => cases s <;> exact ⟨_, rfl⟩
      | finite t => cases s <;> cases t <;> exact ⟨_, rfl⟩

theorem lt_iff_compare (x y : Float) :
    x < y ↔ x.toModel.unpack.compare y.toModel.unpack = some .lt :=
  decide_eq_true_iff.trans beq_iff_eq

theorem le_iff_compare (x y : Float) :
    x ≤ y ↔ (x.toModel.unpack.compare y.toModel.unpack).any (·.isLE) = true :=
  decide_eq_true_iff

theorem not_lt_iff_le {x y : Float} (hx : x.isNaN = false) (hy : y.isNaN = false) :
    ¬x < y ↔ y ≤ x := by
  obtain ⟨o, ho⟩ := exists_compare hx hy
  rw [lt_iff_compare, le_iff_compare, compare_swap x.toModel.unpack, ho]
  cases o <;> decide

theorem isNaN_unpack_pack (x : UnpackedFloat) :
    (UnpackedFloat.unpack .binary64 (UnpackedFloat.pack .binary64 x)).isNaN = x.isNaN := by
  have infinite (s : Sign) :
      (UnpackedFloat.unpack .binary64 (packedInfinity .binary64 s)).isNaN = false := by
    cases s <;> rfl
  -- Undefined numbers are written with the greatest exponent field.
  have defined (s : Sign) (e : BitVec 11) (m : BitVec 52) (he : e ≠ -1#11) :
      (UnpackedFloat.unpack .binary64 (packComponents .binary64 s e m)).isNaN = false := by
    unfold UnpackedFloat.unpack
    simp only [unpackExponent_packComponents]
    rw [if_neg he]
    split
    · split <;> rfl
    · rfl
  cases x with
  | notANumber => rfl
  | infinity s => exact infinite s
  | zero s => cases s <;> rfl
  | finite s m e hm =>
      change _ = false
      simp only [UnpackedFloat.pack]
      split
      · exact infinite s
      · next small =>
          split
          · refine defined s _ _ fun h => ?_
            have hbits := congrArg BitVec.toNat h
            simp [Format.binary64] at hbits small
            omega
          · exact defined s _ _ (by decide)

theorem isNaN_abs (x : Float) : x.abs.isNaN = x.isNaN := by
  have habs (u : UnpackedFloat) : u.abs.isNaN = u.isNaN := by cases u <;> rfl
  exact (isNaN_unpack_pack _).trans (habs _)

end MachineNumber

/-- All coefficients are finite, and the area factor as it is computed is a number that is not
too small. -/
structure Affine.Valid (m : Affine Float) : Prop where
  finite : ∀ x ∈ m.coeffs, x.isFinite = true
  defined : m.det.isNaN = false
  magnitude : degeneracyEpsilon ≤ m.det.abs

theorem Affine.isSound_iff_valid (m : Affine Float) : m.isSound = true ↔ m.Valid := by
  have hfinite : m.isFinite = true ↔ ∀ x ∈ m.coeffs, x.isFinite = true := List.all_eq_true
  have hdegenerate : (!isDegenerate m.det) = true ↔
      m.det.isNaN = false ∧ degeneracyEpsilon ≤ m.det.abs := by
    change (!(m.det.isNaN || decide (m.det.abs < degeneracyEpsilon))) = true ↔ _
    rw [Bool.not_eq_true', Bool.or_eq_false_iff, decide_eq_false_iff_not]
    have epsilon : (degeneracyEpsilon : Float).isNaN = false := by decide +kernel
    refine and_congr_right fun defined => ?_
    exact MachineNumber.not_lt_iff_le ((MachineNumber.isNaN_abs _).trans defined) epsilon
  rw [isSound, Bool.and_eq_true, hfinite, hdegenerate]
  exact ⟨fun ⟨finite, defined, magnitude⟩ => ⟨finite, defined, magnitude⟩,
    fun h => ⟨h.finite, h.defined, h.magnitude⟩⟩

namespace Transform

section

variable {α : Type} [Scalar α]

/-- Both maps pass the check, wherever the transform came from. -/
structure Sound (t : Transform α) : Prop where
  forward : t.forward.isSound = true
  inverse : t.inverse.isSound = true

theorem ofAffine_of_isSound {m : Affine α} (h : m.isSound = true)
    (hi : m.inverse.isSound = true) : ofAffine m = .ok ⟨m, m.inverse⟩ := by
  rw [ofAffine, h, hi]
  rfl

theorem sound_of_ofAffine {m : Affine α} {t : Transform α} (h : ofAffine m = .ok t) : t.Sound := by
  unfold ofAffine at h
  split at h
  · next sound =>
      obtain ⟨forward, inverse⟩ := Bool.and_eq_true_iff.mp sound
      cases h
      exact ⟨forward, inverse⟩
  · cases h

theorem Sound.invert {t : Transform α} (h : t.Sound) :
    t.invert = .ok ⟨t.inverse, t.forward⟩ := by
  have degenerate : isDegenerate t.inverse.det = false := by
    have hi := h.inverse
    rw [Affine.isSound, Bool.and_eq_true, Bool.not_eq_true'] at hi
    exact hi.2
  simp only [Transform.invert, degenerate, Bool.false_eq_true, if_false]

theorem Reachable.sound (identity : (Transform.identity : Transform α).Sound) {t : Transform α}
    (h : t.Reachable) : t.Sound := by
  induction h with
  | identity => exact identity
  | ofAffine ok | compose _ ok | translate _ ok | scale _ ok | rotate _ ok | multiply _ _ ok =>
      exact sound_of_ofAffine ok
  | invert _ ok ih =>
      rw [ih.invert] at ok
      cases ok
      exact ⟨ih.inverse, ih.forward⟩

end

/-- Both maps are valid, and exchanging them gives a transform of which the same holds. -/
structure Undoable (t : Transform Float) : Prop where
  forward : t.forward.Valid
  inverse : t.inverse.Valid
  invert : ∃ u, t.invert = .ok u ∧ u.forward.Valid ∧ u.inverse.Valid ∧ u.invert = .ok t ∧
    ∀ p, u.mapPoint p = t.mapPointInverse p

theorem Sound.undoable {t : Transform Float} (h : t.Sound) : t.Undoable := by
  have forward := t.forward.isSound_iff_valid.mp h.forward
  have inverse := t.inverse.isSound_iff_valid.mp h.inverse
  have back : (⟨t.inverse, t.forward⟩ : Transform Float).Sound := ⟨h.inverse, h.forward⟩
  exact ⟨forward, inverse, _, h.invert, inverse, forward, back.invert, fun _ => rfl⟩

theorem sound_identity : (identity : Transform Float).Sound := by
  have sound : (Affine.identity : Affine Float).isSound = true := by decide +kernel
  exact ⟨sound, sound⟩

/-- On machine numbers, every transform that operations on transforms can make, and every one that
a tracker has in place or saved after any requests, has finite coefficients in its map and in its
inverse and area factors far from zero. It can be undone, which gives another such transform, that
finds content points as this one does and gives this very one back when it is undone. -/
theorem reachable_transforms_are_undoable :
    (∀ t : Transform Float, t.Reachable → t.Undoable) ∧
    ∀ (σ ι : Type) [DrawingSurface σ Float ι] (surface : σ) (ops : List (Tracker.Op Float ι)),
      ∀ t ∈ ((Tracker.ofSurface surface).run ops).transforms, t.Undoable := by
  have undoable (t : Transform Float) (h : t.Reachable) : t.Undoable :=
    (h.sound sound_identity).undoable
  refine ⟨undoable, ?_⟩
  intro σ ι _ surface ops t ht
  have checked : ((Tracker.ofSurface surface : Tracker σ Float).run ops).AllChecked :=
    Tracker.run_induction (Tracker.allChecked_ofSurface surface) .step ops
  exact undoable t (checked t ht).reachable

theorem far_shift_of_an_inverse_is_undoable :
    let scaled : Affine Float := .identity * .scaling 3 (-0.1)
    let shifted : Affine Float := scaled.inverse * .shift ⟨1e300, -1e-300⟩
    let t : Transform Float := ⟨shifted, shifted.inverse⟩
    t.Reachable ∧ t.Undoable := by
  intro scaled shifted t
  have scaledSound : Sound ⟨scaled, scaled.inverse⟩ := ⟨by decide +kernel, by decide +kernel⟩
  have shiftedSound : t.Sound := ⟨by decide +kernel, by decide +kernel⟩
  have hscaled : (identity : Transform Float).scale 3 (-0.1) = .ok ⟨scaled, scaled.inverse⟩ :=
    ofAffine_of_isSound (m := scaled) scaledSound.forward scaledSound.inverse
  have hshifted : (⟨scaled.inverse, scaled⟩ : Transform Float).translate ⟨1e300, -1e-300⟩ = .ok t :=
    ofAffine_of_isSound (m := shifted) shiftedSound.forward shiftedSound.inverse
  have reachable : t.Reachable :=
    .translate (.invert (.scale .identity hscaled) scaledSound.invert) hshifted
  exact ⟨reachable, reachable_transforms_are_undoable.1 t reachable⟩

end Transform

end GraphLens
