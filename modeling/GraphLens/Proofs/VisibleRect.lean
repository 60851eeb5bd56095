import Mathlib.Order.Interval.Set.Basic
import GraphLens.Proofs.ExactScalar
import GraphLens.Proofs.PaneSteps
import GraphLens.Surface.Recording

namespace GraphLens

section

variable {K : Type} [Field K] [LinearOrder K] [Elementary K]

theorem Scalar.min_eq_min (a b : K) : Scalar.min a b = Min.min a b := by
  rw [min_comm, min_def_lt]
  rfl

theorem Scalar.max_eq_max (a b : K) : Scalar.max a b = Max.max a b := by
  rw [max_def_lt]
  rfl

namespace Rect

instance : Membership (Point K) (Rect K) where
  mem r p := p.x ∈ Set.Icc r.x0 r.x1 ∧ p.y ∈ Set.Icc r.y0 r.y1

def Within (r s : Rect K) : Prop := (s.x0 ≤ r.x0 ∧ r.x1 ≤ s.x1) ∧ s.y0 ≤ r.y0 ∧ r.y1 ≤ s.y1

def corners {α : Type} (r : Rect α) : List (Point α) :=
  [⟨r.x0, r.y0⟩, ⟨r.x1, r.y0⟩, ⟨r.x0, r.y1⟩, ⟨r.x1, r.y1⟩]

theorem mem_iff {r : Rect K} {p : Point K} :
    p ∈ r ↔ (r.x0 ≤ p.x ∧ p.x ≤ r.x1) ∧ r.y0 ≤ p.y ∧ p.y ≤ r.y1 := Iff.rfl

theorem within_refl (r : Rect K) : r.Within r := ⟨⟨le_rfl, le_rfl⟩, le_rfl, le_rfl⟩

theorem Within.mem {r s : Rect K} (h : r.Within s) {p : Point K} (hp : p ∈ r) : p ∈ s := by
  obtain ⟨⟨hx0, hx1⟩, hy0, hy1⟩ := h
  obtain ⟨⟨px0, px1⟩, py0, py1⟩ := hp
  exact ⟨⟨hx0.trans px0, px1.trans hx1⟩, hy0.trans py0, py1.trans hy1⟩

theorem ofPoints_within_iff {p q : Point K} {r : Rect K} :
    (ofPoints p q).Within r ↔ p ∈ r ∧ q ∈ r := by
  simp only [Within, ofPoints, Scalar.min_eq_min, Scalar.max_eq_max, le_min_iff, max_le_iff,
    mem_iff]
  tauto

theorem extend_within_iff {r s : Rect K} {p : Point K} :
    (r.extend p).Within s ↔ r.Within s ∧ p ∈ s := by
  simp only [Within, extend, Scalar.min_eq_min, Scalar.max_eq_max, le_min_iff, max_le_iff, mem_iff]
  tauto

theorem mem_of_mem_corners {r : Rect K} (hx : r.x0 ≤ r.x1) (hy : r.y0 ≤ r.y1) {p : Point K}
    (hp : p ∈ r.corners) : p ∈ r := by
  simp only [corners, List.mem_cons, List.not_mem_nil, or_false] at hp
  rcases hp with rfl | rfl | rfl | rfl <;> simp [mem_iff, hx, hy]

end Rect

variable [IsStrictOrderedRing K]

theorem mul_add_mem_Icc {a b x0 x1 x lo hi : K} (hx : x ∈ Set.Icc x0 x1)
    (h0 : a * x0 + b ∈ Set.Icc lo hi) (h1 : a * x1 + b ∈ Set.Icc lo hi) :
    a * x + b ∈ Set.Icc lo hi := by
  rcases le_total 0 a with ha | ha
  · have above : a * x0 ≤ a * x := mul_le_mul_of_nonneg_left hx.1 ha
    have below : a * x ≤ a * x1 := mul_le_mul_of_nonneg_left hx.2 ha
    exact ⟨h0.1.trans (by gcongr), le_trans (by gcongr) h1.2⟩
  · have above : a * x1 ≤ a * x := mul_le_mul_of_nonpos_left hx.2 ha
    have below : a * x ≤ a * x0 := mul_le_mul_of_nonpos_left hx.1 ha
    exact ⟨h1.1.trans (by gcongr), le_trans (by gcongr) h0.2⟩

theorem Rect.mul_add_mul_add_mem_Icc {s : Rect K} {p : Point K} (hp : p ∈ s) {a c e lo hi : K}
    (corners : ∀ q ∈ s.corners, a * q.x + c * q.y + e ∈ Set.Icc lo hi) :
    a * p.x + c * p.y + e ∈ Set.Icc lo hi := by
  simp only [Rect.corners, List.forall_mem_cons, List.not_mem_nil, false_implies, implies_true,
    and_true] at corners
  obtain ⟨h00, h10, h01, h11⟩ := corners
  -- First along the two horizontal edges, and then between them.
  have along (y : K) (h0 : a * s.x0 + c * y + e ∈ Set.Icc lo hi)
      (h1 : a * s.x1 + c * y + e ∈ Set.Icc lo hi) : a * p.x + c * y + e ∈ Set.Icc lo hi := by
    rw [add_assoc] at h0 h1 ⊢
    exact mul_add_mem_Icc hp.1 h0 h1
  have first := along s.y0 h00 h10
  have second := along s.y1 h01 h11
  have swap (y : K) : a * p.x + c * y + e = c * y + (a * p.x + e) := by ring
  rw [swap] at first second ⊢
  exact mul_add_mem_Icc hp.2 first second

theorem Affine.apply_mem {m : Affine K} {s r : Rect K} (corners : ∀ q ∈ s.corners, m.apply q ∈ r)
    {p : Point K} (hp : p ∈ s) : m.apply p ∈ r :=
  ⟨Rect.mul_add_mul_add_mem_Icc hp fun q hq => (corners q hq).1,
    Rect.mul_add_mul_add_mem_Icc hp fun q hq => (corners q hq).2⟩

end

namespace Viewport

variable {K σ ι : Type} [Field K] [LinearOrder K] [Elementary K] [DrawingSurface σ K ι]

theorem visibleRect_within_iff_corners {v : Viewport σ K ι} {r : Rect K} :
    v.visibleRect.Within r ↔ ∀ q ∈ v.canvasSize.toRect.corners, v.transformedPoint q ∈ r := by
  simp only [visibleRect, Rect.extend_within_iff, Rect.ofPoints_within_iff, Rect.corners,
    List.forall_mem_cons, List.not_mem_nil, false_implies, implies_true, and_true, and_assoc]

variable [IsStrictOrderedRing K]

/-- The visible rectangle is the least one that holds the content point of every canvas point. -/
theorem visibleRect_within_iff {v : Viewport σ K ι} (hw : 0 ≤ v.canvasSize.width)
    (hh : 0 ≤ v.canvasSize.height) {r : Rect K} :
    v.visibleRect.Within r ↔ ∀ p ∈ v.canvasSize.toRect, v.transformedPoint p ∈ r := by
  rw [visibleRect_within_iff_corners]
  constructor
  · intro corners p hp
    exact Affine.apply_mem corners hp
  · intro all q hq
    exact all q (Rect.mem_of_mem_corners hw hh hq)

/-- On any viewport that requests have led to, whatever turns its transform makes: the content point
of every canvas point is in the visible rectangle and is shown at that canvas point, so that what
is cleared there covers the canvas; and the rectangle has its edges in order and lies in every
rectangle that holds all those content points. -/
theorem visibleRect_is_least_around_canvas (surface : σ) (config : PanZoomConfig K)
    (before : List (Pane.Op K ι)) :
    let v := ((Pane.ofSurface surface config).run before).viewport
    let canvas := v.canvasSize.toRect
    let visible := v.visibleRect
    0 ≤ v.canvasSize.width → 0 ≤ v.canvasSize.height →
      (∀ p ∈ canvas, v.transformedPoint p ∈ visible) ∧
      (∀ p ∈ canvas, ∃ q ∈ visible, v.transform.mapPoint q = p) ∧
      (visible.x0 ≤ visible.x1 ∧ visible.y0 ≤ visible.y1) ∧
      ∀ r : Rect K, (∀ p ∈ canvas, v.transformedPoint p ∈ r) → ∀ q ∈ visible, q ∈ r := by
  intro v canvas visible hw hh
  have checked : v.tracker.AllChecked := Pane.allChecked_run_ofSurface surface config before
  have covers : ∀ p ∈ canvas, v.transformedPoint p ∈ visible :=
    (visibleRect_within_iff hw hh).mp visible.within_refl
  refine ⟨covers, ?_, ?_, ?_⟩
  · intro p hp
    exact ⟨v.transformedPoint p, covers p hp, checked.current.exact.mapPoint_mapPointInverse p⟩
  · have corner : ⟨0, 0⟩ ∈ canvas := Rect.mem_of_mem_corners hw hh (.head _)
    obtain ⟨⟨left, right⟩, top, bottom⟩ := covers _ corner
    exact ⟨left.trans right, top.trans bottom⟩
  · intro r holds q hq
    exact ((visibleRect_within_iff hw hh).mpr holds).mem hq

theorem turned_view_is_least_around_canvas :
    let start : Pane (RecordingSurface ℚ) ℚ (ImageHandle ℚ) :=
      Pane.ofSurface (.ofSize ⟨800, 600⟩) .standard
    let v := (start.run [.tracker (.transform ⟨0, 2, -2, 1, 30, 40⟩),
      .tracker (.scale 1 (-1))]).viewport
    let visible := v.visibleRect
    (0 ≤ v.canvasSize.width ∧ 0 ≤ v.canvasSize.height) ∧
    (visible == ⟨-55 / 2, -15, 945 / 2, 385⟩) = true ∧
    v.transformedPoint ⟨400, 300⟩ ∈ visible ∧
    ∃ q ∈ visible, v.transform.mapPoint q = ⟨799, 1⟩ := by
  intro start v visible
  have hw : 0 ≤ v.canvasSize.width := by decide +kernel
  have hh : 0 ≤ v.canvasSize.height := by decide +kernel
  have middle : (⟨400, 300⟩ : Point ℚ) ∈ v.canvasSize.toRect :=
    ⟨⟨by decide +kernel, by decide +kernel⟩, by decide +kernel, by decide +kernel⟩
  have edge : (⟨799, 1⟩ : Point ℚ) ∈ v.canvasSize.toRect :=
    ⟨⟨by decide +kernel, by decide +kernel⟩, by decide +kernel, by decide +kernel⟩
  obtain ⟨covers, reached, _⟩ := visibleRect_is_least_around_canvas
    (RecordingSurface.ofSize ⟨800, 600⟩ : RecordingSurface ℚ) .standard _ hw hh
  exact ⟨⟨hw, hh⟩, by decide +kernel, covers _ middle, reached _ edge⟩

end Viewport

end GraphLens
