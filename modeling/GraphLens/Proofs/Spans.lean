import Mathlib.Data.List.TakeWhile

namespace GraphLens

variable {p : Char → Bool} {w s : List Char}

def Stops (p : Char → Bool) (s : List Char) : Prop := ∀ c ∈ s.head?, p c = false

theorem stops_nil : Stops p [] := by simp [Stops]

theorem stops_cons {c : Char} (h : p c = false) : Stops p (c :: s) := by
  intro d hd
  rwa [← Option.some.inj hd]

theorem stops_dropWhile (p : Char → Bool) (s : List Char) : Stops p (s.dropWhile p) := by
  intro c hc
  have h := List.head?_dropWhile_not p s
  rw [hc] at h
  exact h

theorem Stops.of_imp {q : Char → Bool} (h : Stops p s) (hpq : ∀ c, q c = true → p c = true) :
    Stops q s := by
  intro c hc
  have hp := h c hc
  by_contra hq
  rw [Bool.not_eq_false] at hq
  simp [hpq c hq] at hp

theorem Stops.takeWhile_eq_nil (h : Stops p s) : s.takeWhile p = [] := by
  cases s with
  | nil => rfl
  | cons c s => exact List.takeWhile_cons_of_neg (by simp [h c rfl])

theorem Stops.dropWhile_eq (h : Stops p s) : s.dropWhile p = s := by
  cases s with
  | nil => rfl
  | cons c s => exact List.dropWhile_cons_of_neg (by simp [h c rfl])

theorem takeWhile_append_of_stops (hw : ∀ c ∈ w, p c = true) (hs : Stops p s) :
    (w ++ s).takeWhile p = w := by
  rw [List.takeWhile_append_of_pos hw, hs.takeWhile_eq_nil, List.append_nil]

theorem dropWhile_append_of_stops (hw : ∀ c ∈ w, p c = true) (hs : Stops p s) :
    (w ++ s).dropWhile p = s := by
  rw [List.dropWhile_append_of_pos hw, hs.dropWhile_eq]

theorem append_inj_of_stops {w' s' : List Char} (hw : ∀ c ∈ w, p c = true) (hs : Stops p s)
    (hw' : ∀ c ∈ w', p c = true) (hs' : Stops p s') (h : w ++ s = w' ++ s') : w = w' ∧ s = s' := by
  have hruns := congrArg (List.takeWhile p) h
  have hrests := congrArg (List.dropWhile p) h
  rw [takeWhile_append_of_stops hw hs, takeWhile_append_of_stops hw' hs'] at hruns
  rw [dropWhile_append_of_stops hw hs, dropWhile_append_of_stops hw' hs'] at hrests
  exact ⟨hruns, hrests⟩

end GraphLens
