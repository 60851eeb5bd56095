import Mathlib.Algebra.BigOperators.Group.List.Basic
import GraphLens.Proofs.ExactScalar
import GraphLens.Proofs.Presses

namespace GraphLens

open PanZoomTarget

section

variable {K : Type} [Field K] [LinearOrder K] [Elementary K]

namespace Affine

def linearTimes (s : K) (m : Affine K) : K × K × K × K := (s * m.a, s * m.b, s * m.c, s * m.d)

theorem linearTimes_one (m : Affine K) : m.linearTimes 1 = m.linear := by
  simp only [linearTimes, linear, one_mul]

theorem linearTimes_of_linear {s t : K} {m n : Affine K} (h : n.linear = m.linearTimes t) :
    n.linearTimes s = m.linearTimes (t * s) := by
  simp only [linear, linearTimes, Prod.mk.injEq] at h
  obtain ⟨ha, hb, hc, hd⟩ := h
  simp only [linearTimes, ha, hb, hc, hd, mul_left_comm s t, mul_assoc t s]

theorem det_of_linear {s : K} {m : Affine K} (h : m.linear = (s, 0, 0, s)) : m.det = s ^ 2 := by
  simp only [linear, Prod.mk.injEq] at h
  obtain ⟨ha, hb, hc, hd⟩ := h
  rw [det, ha, hb, hc, hd]
  ring

theorem linear_mul_zoomMap (m : Affine K) (focus : Point K) (factor : K) :
    (m * Pointer.zoomMap focus factor).linear = m.linearTimes factor := by
  simp only [Pointer.zoomMap, linear, linearTimes, mul_def, mul, shift, scaling, Prod.mk.injEq]
  refine ⟨?_, ?_, ?_, ?_⟩ <;> ring

theorem zoomMap_apply_focus (focus : Point K) (factor : K) :
    (Pointer.zoomMap focus factor).apply focus = focus := by
  obtain ⟨x, y⟩ := focus
  change (shift ⟨x, y⟩ * scaling factor factor * shift ⟨-x, -y⟩).apply ⟨x, y⟩ = ⟨x, y⟩
  simp only [mul_def, mul, shift, scaling, apply, Point.mk.injEq]
  constructor <;> ring

end Affine

variable [IsStrictOrderedRing K]

theorem Transform.Exact.mapPointInverse_of_zoomMap {t u : Transform K} (ht : t.Exact)
    (hu : u.Exact) {pos : Point K} {factor : K}
    (h : u.forward = t.forward * Pointer.zoomMap (t.mapPointInverse pos) factor) :
    u.mapPointInverse pos = t.mapPointInverse pos := by
  have hpos : u.mapPoint (t.mapPointInverse pos) = pos := by
    rw [mapPoint, h, Affine.apply_mul, Affine.zoomMap_apply_focus]
    exact ht.mapPoint_mapPointInverse pos
  have hfocus := hu.mapPointInverse_mapPoint (t.mapPointInverse pos)
  rwa [hpos] at hfocus

end

namespace Pointer

def Response.factors {α : Type} : Response α → List α
  | .zoomed factor _ => [factor]
  | _ => []

variable {K σ ι : Type} [Field K] [LinearOrder K] [Elementary K] [DrawingSurface σ K ι]
  {p : Pointer K} {v : Viewport σ K ι} {o : Outcome (Viewport σ K ι) K}

theorem forward_redraw_of_apply {v' : Viewport σ K ι} {m : Affine K}
    (ok : apply v m = (.ok (), v')) :
    (redraw v').transform.forward = v.transform.forward * m :=
  (congrArg (·.forward) v'.transform_redraw).trans
    (Transform.forward_of_ofAffine (Viewport.compose_of_apply ok))

theorem Zooms.linear {clicks : K} (h : Zooms p v clicks o) :
    o.target.transform.forward.linear =
      v.transform.forward.linearTimes o.response.factors.prod := by
  cases h with
  | accepted ok =>
      rw [forward_redraw_of_apply ok, Affine.linear_mul_zoomMap, Response.factors,
        List.prod_singleton]
  | refused error =>
      rw [Viewport.eq_of_apply_eq_error error]
      exact (Affine.linearTimes_one _).symm

/-- A pan leaves the linear part alone, and a zoom multiplies it by the factor it reports. -/
theorem Steps.linear {e : Event K} (h : Steps p v e o) :
    o.target.transform.forward.linear =
      v.transform.forward.linearTimes o.response.factors.prod := by
  cases h with
  | panned held ok =>
      rw [forward_redraw_of_apply ok, Affine.linear_mul_shift]
      exact (Affine.linearTimes_one _).symm
  | panRefused held error =>
      rw [Viewport.eq_of_apply_eq_error error]
      exact (Affine.linearTimes_one _).symm
  | clicked held still zooms => exact zooms.linear
  | turned turn zooms => exact zooms.linear
  | zoomed zooms => exact zooms.linear
  | cancelled => cases dragging : p.isDragging <;> exact (Affine.linearTimes_one _).symm
  | pressed | hovered | unpressed | released | unturned => exact (Affine.linearTimes_one _).symm

variable [IsStrictOrderedRing K]

theorem Zooms.mapPointInverse {clicks : K} (h : Zooms p v clicks o)
    (checked : v.tracker.AllChecked) (checked' : o.target.tracker.AllChecked) :
    o.target.transform.mapPointInverse p.lastPosition =
      v.transform.mapPointInverse p.lastPosition := by
  cases h with
  | accepted ok =>
      exact checked.current.exact.mapPointInverse_of_zoomMap checked'.current.exact
        (forward_redraw_of_apply ok)
  | refused error => rw [Viewport.eq_of_apply_eq_error error]

theorem Steps.mapPointInverse {e : Event K} (h : Steps p v e o) (zooms : e.zooms = true)
    (checked : v.tracker.AllChecked) (checked' : o.target.tracker.AllChecked) :
    o.target.transform.mapPointInverse o.pointer.lastPosition =
      v.transform.mapPointInverse o.pointer.lastPosition := by
  cases h with
  | unturned => rfl
  | turned turn accepted | zoomed accepted =>
      rw [accepted.pointer]
      exact accepted.mapPointInverse checked checked'
  | pressed | hovered | panned | panRefused | unpressed | released | clicked | cancelled =>
      cases zooms

end Pointer

namespace Pane

section

variable {σ α ι : Type} [Scalar α] [DrawingSurface σ α ι]

def Op.isPointing : Op α ι → Bool
  | .pointer _ | .setConfig _ => true
  | .tracker _ | .apply _ | .redraw | .setContent _ | .clearContent | .resetView => false

def factor (pane : Pane σ α ι) : Op α ι → List α
  | .pointer event => (pane.handle event).2.1.factors
  | _ => []

def factors (pane : Pane σ α ι) (ops : List (Op α ι)) : List α := observed after factor pane ops

/-- The request is a zoom with the pointer at `pos`, or tunes the pointer. -/
def Op.ZoomsAt (pos : Point α) (pane : Pane σ α ι) : Op α ι → Prop
  | .pointer event =>
    event.zooms = true ∧ (pane.after (.pointer event)).pointer.lastPosition = pos
  | .setConfig _ => True
  | _ => False

/-- All that is asked for is to zoom, each time with the pointer at `pos`. -/
def ZoomsAt (pos : Point α) : Pane σ α ι → List (Op α ι) → Prop
  | _, [] => True
  | pane, op :: ops => op.ZoomsAt pos pane ∧ ZoomsAt pos (pane.after op) ops

theorem Op.ZoomsAt.isPointing {pos : Point α} {pane : Pane σ α ι} {op : Op α ι}
    (h : op.ZoomsAt pos pane) : op.isPointing = true := by
  cases op with
  | pointer | setConfig => rfl
  | tracker | apply | redraw | setContent | clearContent | resetView => exact h.elim

theorem ZoomsAt.isPointing {pos : Point α} {pane : Pane σ α ι} {ops : List (Op α ι)}
    (h : ZoomsAt pos pane ops) : ∀ op ∈ ops, op.isPointing = true := by
  induction ops generalizing pane with
  | nil => nofun
  | cons op ops ih => exact List.forall_mem_cons.mpr ⟨h.1.isPointing, ih h.2⟩

theorem zoomsAt_wheel (pos : Point α) (pane : Pane σ α ι) (deltas : List α) :
    ZoomsAt pos pane (deltas.map fun delta => .pointer (.wheel pos delta)) := by
  induction deltas generalizing pane with
  | nil => trivial
  | cons delta deltas ih =>
      exact ⟨⟨rfl, (pane.pointer.steps_handle pane.viewport (.wheel pos delta)).lastPosition⟩, ih _⟩

end

variable {K σ ι : Type} [Field K] [LinearOrder K] [Elementary K] [DrawingSurface σ K ι]

theorem linear_after {op : Op K ι} (pane : Pane σ K ι) (h : op.isPointing = true) :
    (pane.after op).viewport.transform.forward.linear =
      pane.viewport.transform.forward.linearTimes (pane.factor op).prod := by
  cases op with
  | pointer event => exact (pane.pointer.steps_handle pane.viewport event).linear
  | setConfig config => exact (Affine.linearTimes_one _).symm
  | tracker | apply | redraw | setContent | clearContent | resetView => cases h

theorem linear_run (pane : Pane σ K ι) {ops : List (Op K ι)}
    (pointing : ∀ op ∈ ops, op.isPointing = true) :
    (pane.run ops).viewport.transform.forward.linear =
      pane.viewport.transform.forward.linearTimes (pane.factors ops).prod := by
  induction ops generalizing pane with
  | nil => exact (Affine.linearTimes_one _).symm
  | cons op ops ih =>
      obtain ⟨hop, pointing⟩ := List.forall_mem_cons.mp pointing
      rw [factors, observed, List.prod_append,
        ← Affine.linearTimes_of_linear (pane.linear_after hop)]
      exact ih (pane.after op) pointing

variable [IsStrictOrderedRing K]

theorem ZoomsAt.mapPointInverse {pos : Point K} {pane : Pane σ K ι} {ops : List (Op K ι)}
    (h : ZoomsAt pos pane ops) (checked : pane.viewport.tracker.AllChecked) :
    (pane.run ops).viewport.transform.mapPointInverse pos =
      pane.viewport.transform.mapPointInverse pos := by
  induction ops generalizing pane with
  | nil => rfl
  | cons op ops ih =>
      obtain ⟨hop, hops⟩ := h
      have checked' := allChecked_after checked op
      refine (ih hops checked').trans ?_
      cases op with
      | pointer event =>
          obtain ⟨zooms, rfl⟩ := hop
          exact (pane.pointer.steps_handle pane.viewport event).mapPointInverse zooms checked
            checked'
      | setConfig config => rfl
      | tracker | apply | redraw | setContent | clearContent | resetView => exact hop.elim

theorem transform_run_of_zoomsAt {pos : Point K} {pane pane' : Pane σ K ι}
    {ops ops' : List (Op K ι)}
    (checked : pane.viewport.tracker.AllChecked) (checked' : pane'.viewport.tracker.AllChecked)
    (same : pane'.viewport.transform = pane.viewport.transform)
    (h : ZoomsAt pos pane ops) (h' : ZoomsAt pos pane' ops')
    (product : (pane.factors ops).prod = (pane'.factors ops').prod) :
    (pane.run ops).viewport.transform = (pane'.run ops').viewport.transform := by
  have linear := pane.linear_run h.isPointing
  have linear' := pane'.linear_run h'.isPointing
  rw [same, ← product] at linear'
  have under := h.mapPointInverse checked
  have under' := h'.mapPointInverse checked'
  rw [same] at under'
  exact (allChecked_run checked ops).current.exact.eq_of_linear_of_mapPointInverse
    (allChecked_run checked' ops').current.exact (linear.trans linear'.symm) pos
    (under.trans under'.symm)

/-- In exact numbers, whatever a zoom computes its factor from: after any events on a new pane the
linear part of the transform is `s` times the identity, where `s` is the product of the factors
that were reported, and the area factor `s²` is in bounds. From any transform, zooms with the
pointer at one place give transforms that are equal if the products of the factors are, so that
the order of the factors makes no difference and factors that cancel restore the transform. -/
theorem zoom_level_is_product_of_factors (surface : σ) (config : PanZoomConfig K) :
    let new : Pane σ K ι := ofSurface surface config
    (∀ ops : List (Op K ι), (∀ op ∈ ops, op.isPointing = true) →
      let s := (new.factors ops).prod
      (new.run ops).viewport.transform.forward.linear = (s, 0, 0, s) ∧
      degeneracyEpsilon ≤ s ^ 2 ∧ s ^ 2 ≤ 1 / degeneracyEpsilon) ∧
    ∀ before : List (Op K ι),
      let start := new.run before
      (∀ (surface' : σ) (config' : PanZoomConfig K) (before' : List (Op K ι)),
        let start' := (ofSurface surface' config').run before'
        start'.viewport.transform = start.viewport.transform →
        ∀ pos ops ops', ZoomsAt pos start ops → ZoomsAt pos start' ops' →
          ((start.factors ops).prod = (start'.factors ops').prod →
            (start.run ops).viewport.transform = (start'.run ops').viewport.transform) ∧
          ((start.factors ops).Perm (start'.factors ops') →
            (start.run ops).viewport.transform = (start'.run ops').viewport.transform)) ∧
      ∀ pos ops, ZoomsAt pos start ops → (start.factors ops).prod = 1 →
        (start.run ops).viewport.transform = start.viewport.transform := by
  intro new
  have reachable (surface : σ) (config : PanZoomConfig K) (before : List (Op K ι)) :
      ((ofSurface surface config).run before).viewport.tracker.AllChecked :=
    allChecked_run (Tracker.allChecked_ofSurface surface) before
  refine ⟨?_, fun before => ⟨?_, ?_⟩⟩
  · intro ops pointing s
    have linear : _ = Affine.identity.linearTimes s := new.linear_run pointing
    have hs : (Affine.identity : Affine K).linearTimes s = (s, 0, 0, s) := by
      simp only [Affine.linearTimes, Affine.identity, mul_one, mul_zero]
    rw [hs] at linear
    have bounds : InBounds (new.run ops).viewport.transform.forward.det :=
      (reachable surface config ops).current.exact.bounds
    rw [Affine.det_of_linear linear, InBounds, abs_of_nonneg (sq_nonneg s)] at bounds
    exact ⟨linear, bounds⟩
  · intro surface' config' before' start' same pos ops ops' h h'
    have equal := transform_run_of_zoomsAt (reachable surface config before)
      (reachable surface' config' before') same h h'
    exact ⟨equal, fun perm => equal perm.prod_eq⟩
  · intro pos ops h product
    have checked := reachable surface config before
    have nothing : ZoomsAt pos (new.run before) [] := trivial
    have equal := transform_run_of_zoomsAt checked checked rfl h nothing
    exact equal product

theorem wheel_there_and_back_is_at_product :
    let new : Pane (RecordingSurface ℚ) ℚ (ImageHandle ℚ) :=
      ofSurface (.ofSize ⟨800, 600⟩) .standard
    let mixed : List (Op ℚ (ImageHandle ℚ)) :=
      [.pointer (.wheel ⟨10, 20⟩ 80), .pointer (.down ⟨3, 4⟩), .pointer (.move ⟨30, 5⟩),
        .setConfig ⟨2, 40, 1⟩, .pointer (.zoom (-3)), .pointer (.wheel ⟨1, 1⟩ 4000)]
    let start := new.run [.tracker (.transform ⟨2, 1, -1, 2, 30, 40⟩)]
    let turned (deltas : List ℚ) : List (Op ℚ (ImageHandle ℚ)) :=
      deltas.map fun delta => .pointer (.wheel ⟨7, 9⟩ delta)
    ((∀ op ∈ mixed, op.isPointing = true) ∧ (new.factors mixed).prod = 121 / 800) ∧
    (new.run mixed).viewport.transform.forward.linear = (121 / 800, 0, 0, 121 / 800) ∧
    (ZoomsAt ⟨7, 9⟩ start (turned [80, -40]) ∧ ZoomsAt ⟨7, 9⟩ start (turned [-40, 80]) ∧
      (start.factors (turned [80, -40])).Perm (start.factors (turned [-40, 80]))) ∧
    (start.run (turned [80, -40])).viewport.transform =
      (start.run (turned [-40, 80])).viewport.transform ∧
    (start.factors (turned [80, -80])).prod = 1 ∧
    (start.run (turned [80, -80])).viewport.transform = start.viewport.transform := by
  intro new mixed start turned
  obtain ⟨level, there⟩ := zoom_level_is_product_of_factors
    (RecordingSurface.ofSize ⟨800, 600⟩ : RecordingSurface ℚ) .standard
  obtain ⟨orders, back⟩ := there [.tracker (.transform ⟨2, 1, -1, 2, 30, 40⟩)]
  have pointing : ∀ op ∈ mixed, op.isPointing = true := by simp [mixed, Op.isPointing]
  have product : (new.factors mixed).prod = 121 / 800 := by decide +kernel
  have perm : (start.factors (turned [80, -40])).Perm (start.factors (turned [-40, 80])) := by
    decide +kernel
  have cancel : (start.factors (turned [80, -80])).prod = 1 := by decide +kernel
  have at7 (deltas : List ℚ) : ZoomsAt ⟨7, 9⟩ start (turned deltas) := zoomsAt_wheel _ start deltas
  have linear := (level mixed pointing).1
  rw [product] at linear
  exact ⟨⟨pointing, product⟩, linear, ⟨at7 _, at7 _, perm⟩,
    (orders _ _ _ rfl _ _ _ (at7 _) (at7 _)).2 perm, cancel, back _ _ (at7 _) cancel⟩

end Pane

end GraphLens
