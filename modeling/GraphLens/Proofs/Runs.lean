namespace GraphLens

variable {S A β : Type}

def observed (step : S → A → S) (see : S → A → List β) (s : S) : List A → List β
  | [] => []
  | a :: acts => see s a ++ observed step see (step s a) acts

theorem observed_concat (step : S → A → S) (see : S → A → List β) (s : S) (acts : List A) (a : A) :
    observed step see s (acts ++ [a]) =
      observed step see s acts ++ see (acts.foldl step s) a := by
  induction acts generalizing s with
  | nil => exact List.append_nil _
  | cons b acts ih =>
      rw [List.cons_append, observed, ih, observed, List.append_assoc, List.foldl_cons]

/-- What only some acts change is, after a run, what the last of them made it. -/
theorem foldl_eq_getLastD {step : S → A → S} (view : S → β) {sets : A → Option β}
    (h : ∀ s a, view (step s a) = (sets a).getD (view s)) (s : S) (acts : List A) :
    view (acts.foldl step s) = (acts.filterMap sets).getLastD (view s) := by
  induction acts generalizing s with
  | nil => rfl
  | cons a acts ih =>
      rw [List.foldl_cons, ih, h]
      cases ha : sets a with
      | none =>
          rw [List.filterMap_cons_none ha]
          rfl
      | some b =>
          rw [List.filterMap_cons_some ha, List.getLastD_cons]
          rfl

/-- The last act of the kind `p` has no `q` behind it: in a longer list it is the new act, or it was
there before and the new act is no `q`. -/
theorem exists_split_concat_iff (p q : A → Prop) (acts : List A) (a : A) :
    (∃ before b rest, acts ++ [a] = before ++ b :: rest ∧ p b ∧ ∀ c ∈ rest, ¬q c) ↔
      p a ∨ (∃ before b rest, acts = before ++ b :: rest ∧ p b ∧ ∀ c ∈ rest, ¬q c) ∧ ¬q a := by
  constructor
  · rintro ⟨before, b, rest, h, hb, hrest⟩
    rcases List.eq_nil_or_concat rest with rfl | ⟨rest, c, rfl⟩
    · obtain ⟨_, ha⟩ := List.append_inj' h rfl
      exact .inl (List.head_eq_of_cons_eq ha ▸ hb)
    · rw [List.concat_eq_append, ← List.cons_append, ← List.append_assoc] at h
      obtain ⟨hacts, ha⟩ := List.append_inj' h rfl
      obtain rfl := List.head_eq_of_cons_eq ha
      rw [List.concat_eq_append, List.forall_mem_append] at hrest
      exact .inr ⟨⟨before, b, rest, hacts, hb, hrest.1⟩, hrest.2 _ (.head _)⟩
  · rintro (ha | ⟨⟨before, b, rest, rfl, hb, hrest⟩, ha⟩)
    · exact ⟨acts, a, [], rfl, ha, nofun⟩
    · refine ⟨before, b, rest ++ [a], by simp, hb, ?_⟩
      rw [List.forall_mem_append]
      exact ⟨hrest, List.forall_mem_singleton.mpr ha⟩

end GraphLens
