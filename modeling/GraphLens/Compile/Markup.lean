import GraphLens.Text.Blank

namespace GraphLens.Markup

open Text

def blockOpen : List Char := "<code>".toList

def blockClose : List Char := "</code>".toList

def entryOpen : List Char := "<p>".toList

def entryClose : List Char := "</p>".toList

def cutAt (mark : List Char) : List Char → Option (List Char × List Char)
  | [] => if mark.isEmpty then some ([], []) else none
  | c :: s =>
    match mark.isPrefixOf? (c :: s) with
    | some behind => some ([], behind)
    | none => (cutAt mark s).map fun (before, behind) => (c :: before, behind)

theorem eq_append_of_isPrefixOf? {mark s behind : List Char}
    (h : mark.isPrefixOf? s = some behind) : s = mark ++ behind := by
  induction mark generalizing s with
  | nil => exact Option.some.inj h
  | cons m mark ih =>
    cases s with
    | nil => cases h
    | cons c s =>
      change (if m == c then mark.isPrefixOf? s else none) = some behind at h
      split at h
      · next hc => rw [ih h, beq_iff_eq.1 hc, List.cons_append]
      · cases h

theorem eq_append_of_cutAt {mark s before behind : List Char}
    (h : cutAt mark s = some (before, behind)) : s = before ++ mark ++ behind := by
  induction s generalizing before behind with
  | nil =>
    cases mark with
    | nil =>
      simp only [cutAt, List.isEmpty_nil, if_true, Option.some.injEq, Prod.mk.injEq] at h
      rw [← h.1, ← h.2]; rfl
    | cons _ _ => simp [cutAt] at h
  | cons c s ih =>
    simp only [cutAt] at h
    split at h
    · next hb =>
      cases h
      rw [eq_append_of_isPrefixOf? hb]; rfl
    · obtain ⟨⟨b, r⟩, hr, he⟩ := Option.map_eq_some_iff.1 h
      cases he
      rw [ih hr]; rfl

def entries (s : List Char) : Option (List (List Char)) :=
  if s.isEmpty then some []
  else
    match _ : entryOpen.isPrefixOf? s with
    | none => none
    | some body =>
      match _ : cutAt entryClose body with
      | none => none
      | some (token, rest) => (entries (trimStart rest)).map (token :: ·)
termination_by s.length
decreasing_by
  have hs := congrArg List.length (eq_append_of_isPrefixOf? ‹_›)
  have hb := congrArg List.length (eq_append_of_cutAt ‹_›)
  have ht := length_trimStart_le rest
  have ho : entryOpen.length = 3 := by decide
  simp only [List.length_append] at hs hb
  omega

/-- The tokens of a code block of paragraphs, one in each. Blanks may stand around the block and
between the paragraphs; within a paragraph they belong to the token. -/
def tokens (s : List Char) : Option (List (List Char)) := do
  let body ← blockOpen.isPrefixOf? (trim s)
  let inner ← blockClose.isSuffixOf? body
  entries (trimStart inner)

end GraphLens.Markup
