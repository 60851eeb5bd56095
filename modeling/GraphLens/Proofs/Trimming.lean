import GraphLens.Proofs.Spans
import GraphLens.Text.Blank

namespace GraphLens.Text

variable {m s w w' : List Char}

theorem trimStart_blanks_append (hw : ∀ c ∈ w, isBlank c = true) (s : List Char) :
    trimStart (w ++ s) = trimStart s := List.dropWhile_append_of_pos hw

theorem trim_blanks_append (hw : ∀ c ∈ w, isBlank c = true) (s : List Char) :
    trim (w ++ s) = trim s := by
  rw [trim, trimStart_blanks_append hw, trim]

theorem trim_append_append (hw : ∀ c ∈ w, isBlank c = true) (hne : m ≠ [])
    (hstart : Stops isBlank m) (hend : Stops isBlank m.reverse)
    (hw' : ∀ c ∈ w', isBlank c = true) : trim (w ++ (m ++ w')) = m := by
  have hbegins : Stops isBlank (m ++ w') := by
    obtain ⟨c, l, rfl⟩ := List.exists_cons_of_ne_nil hne
    exact stops_cons (hstart c rfl)
  rw [trim_blanks_append hw, trim, trimStart, hbegins.dropWhile_eq, trimEnd, List.reverse_append,
    dropWhile_append_of_stops (by simpa using hw') hend, List.reverse_reverse]

theorem exists_eq_append_trim (s : List Char) :
    ∃ w w', (∀ c ∈ w, isBlank c = true) ∧ (∀ c ∈ w', isBlank c = true) ∧
      s = w ++ (trim s ++ w') := by
  refine ⟨s.takeWhile isBlank, ((trimStart s).reverse.takeWhile isBlank).reverse,
    fun c hc => List.mem_takeWhile_imp hc, ?_, ?_⟩
  · intro c hc
    exact List.mem_takeWhile_imp (List.mem_reverse.mp hc)
  · rw [trim, trimEnd, ← List.reverse_append, List.takeWhile_append_dropWhile, List.reverse_reverse,
      trimStart, List.takeWhile_append_dropWhile]

theorem stops_trim (s : List Char) : Stops isBlank (trim s) := by
  have hprefix : trim s <+: trimStart s := by
    rw [trim, trimEnd, ← List.reverse_suffix, List.reverse_reverse]
    exact List.dropWhile_suffix _
  obtain ⟨w, hw⟩ := hprefix
  intro c hc
  refine stops_dropWhile isBlank s c ?_
  change c ∈ (trimStart s).head?
  rw [← hw, List.head?_append, hc, Option.some_or]
  rfl

theorem stops_reverse_trim (s : List Char) : Stops isBlank (trim s).reverse := by
  rw [trim, trimEnd, List.reverse_reverse]
  exact stops_dropWhile isBlank _

theorem trim_eq_nil_iff : trim s = [] ↔ ∀ c ∈ s, isBlank c = true := by
  constructor
  · intro h
    obtain ⟨w, w', hw, hw', hs⟩ := exists_eq_append_trim s
    rw [hs, h, List.nil_append, List.forall_mem_append]
    exact ⟨hw, hw'⟩
  · intro h
    rw [← List.append_nil s, trim_blanks_append h]
    rfl

theorem trim_append_blanks (s : List Char) (hw : ∀ c ∈ w, isBlank c = true) :
    trim (s ++ w) = trim s := by
  by_cases hs : trim s = []
  · rw [hs, trim_eq_nil_iff, List.forall_mem_append]
    exact ⟨trim_eq_nil_iff.mp hs, hw⟩
  · obtain ⟨v, v', hv, hv', heq⟩ := exists_eq_append_trim s
    have hblanks : ∀ c ∈ v' ++ w, isBlank c = true := List.forall_mem_append.mpr ⟨hv', hw⟩
    have hsplit : s ++ w = v ++ (trim s ++ (v' ++ w)) :=
      (congrArg (· ++ w) heq).trans (by simp only [List.append_assoc])
    rw [hsplit]
    exact trim_append_append hv hs (stops_trim s) (stops_reverse_trim s) hblanks

end GraphLens.Text
