import Mathlib.Algebra.Order.Field.Basic
import Mathlib.Tactic.Ring
import GraphLens.Pointer.Drag
import GraphLens.Proofs.ExactScalar
import GraphLens.Proofs.Runs

namespace GraphLens

variable {α : Type} [Scalar α]

def Vec.total : List (Vec α) → Vec α
  | [] => ⟨0, 0⟩
  | v :: vs => ⟨v.x + (total vs).x, v.y + (total vs).y⟩

theorem Point.bne_iff_ne {K : Type} [Field K] [LinearOrder K] [Elementary K] {p q : Point K} :
    (p != q) = true ↔ p ≠ q := by
  have hbeq : (p == q) = (decide (p.x = q.x) && decide (p.y = q.y)) := rfl
  obtain ⟨x, y⟩ := p
  obtain ⟨x', y'⟩ := q
  rw [bne, hbeq, Bool.not_eq_true', Bool.and_eq_false_iff, decide_eq_false_iff_not,
    decide_eq_false_iff_not, ne_eq, Point.mk.injEq, not_and_or]

namespace Drag

def follow (d : Drag α) (path : List (Point α)) : Drag α := path.foldl update d

def steps (d : Drag α) (path : List (Point α)) : List (Vec α) :=
  observed update (fun d pos => [d.step pos]) d path

theorem follow_cons (d : Drag α) (pos : Point α) (path : List (Point α)) :
    d.follow (pos :: path) = (d.update pos).follow path := rfl

theorem steps_cons (d : Drag α) (pos : Point α) (path : List (Point α)) :
    d.steps (pos :: path) = d.step pos :: (d.update pos).steps path := rfl

theorem anchor_follow (d : Drag α) (path : List (Point α)) :
    (d.follow path).anchor = d.anchor := by
  induction path generalizing d with
  | nil => rfl
  | cons pos path ih => exact ih (d.update pos)

theorem press_follow (d : Drag α) (path : List (Point α)) : (d.follow path).press = d.press := by
  induction path generalizing d with
  | nil => rfl
  | cons pos path ih => exact ih (d.update pos)

theorem last_follow (d : Drag α) (path : List (Point α)) :
    (d.follow path).last = path.getLastD d.last := by
  induction path generalizing d with
  | nil => rfl
  | cons pos path ih =>
      rw [follow_cons, ih, List.getLastD_cons]
      rfl

/-- The flag stays up once it is up: every place is compared with that of the press, not with the
place before. -/
theorem moved_follow (d : Drag α) (path : List (Point α)) :
    (d.follow path).moved = (d.moved || path.any (· != d.press)) := by
  induction path generalizing d with
  | nil => exact (Bool.or_false _).symm
  | cons pos path ih =>
      rw [follow_cons, ih, List.any_cons, ← Bool.or_assoc]
      rfl

theorem isClick_follow (d : Drag α) (path : List (Point α)) :
    (d.follow path).isClick = (d.isClick && path.all (· == d.press)) := by
  simp only [isClick, moved_follow, Bool.not_or, List.not_any_eq_all_not, bne, Bool.not_not]

section

variable {K : Type} [Field K] [LinearOrder K] [Elementary K]

theorem total_steps (d : Drag K) (path : List (Point K)) :
    Vec.total (d.steps path) = (d.follow path).last - d.last := by
  induction path generalizing d with
  | nil =>
      change (⟨0, 0⟩ : Vec K) = ⟨d.last.x - d.last.x, d.last.y - d.last.y⟩
      rw [sub_self, sub_self]
  | cons pos path ih =>
      rw [steps_cons, Vec.total, ih, follow_cons]
      change (⟨pos.x - d.last.x + (_ - pos.x), pos.y - d.last.y + (_ - pos.y)⟩ : Vec K) = ⟨_, _⟩
      congr 1 <;> ring

end

/-- A press that is followed along a path, on machine numbers as well, keeps its anchor and its
place; it is last where the path ends, and it has moved exactly if the path has a place other than
that of the press, so that no return makes it a click again. In exact numbers, the offsets that it
reports make up the one from the press to the last place. -/
theorem follow_keeps_the_ends :
    (∀ {α : Type} [Scalar α] (press anchor : Point α) (path : List (Point α)),
      let d := (start press anchor).follow path
      d.anchor = anchor ∧ d.press = press ∧ d.last = path.getLastD press ∧
      (d.moved = true ↔ ∃ pos ∈ path, (pos != press) = true) ∧
      ∀ more, (d.follow more).isClick = (d.isClick && more.all (· == press))) ∧
    ∀ {K : Type} [Field K] [LinearOrder K] [Elementary K] (press anchor : Point K)
      (path : List (Point K)),
      let d := (start press anchor).follow path
      Vec.total ((start press anchor).steps path) = d.totalOffset ∧
      d.totalOffset = d.last - press ∧
      (d.moved = true ↔ ∃ pos ∈ path, pos ≠ press) := by
  constructor
  · intro α _ press anchor path d
    have hmoved : d.moved = (false || path.any (· != press)) := moved_follow _ path
    refine ⟨anchor_follow _ path, press_follow _ path, last_follow _ path, ?_, ?_⟩
    · rw [hmoved, Bool.false_or, List.any_eq_true]
    · intro more
      rw [isClick_follow, press_follow]
      rfl
  · intro K _ _ _ press anchor path d
    have hpress : d.press = press := press_follow _ path
    have hmoved : d.moved = (false || path.any (· != press)) := moved_follow _ path
    have htotal : d.totalOffset = d.last - press := by rw [totalOffset, hpress]
    refine ⟨(total_steps _ path).trans htotal.symm, htotal, ?_⟩
    simp only [hmoved, Bool.false_or, List.any_eq_true, Point.bne_iff_ne]

end Drag

end GraphLens
