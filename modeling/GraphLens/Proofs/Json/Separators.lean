import GraphLens.Proofs.Json.Numerals
import GraphLens.Proofs.Json.Texts

namespace GraphLens.Json

open Reader

variable {s t w : List Char}

def BeginsValue (s : List Char) : Prop := ∃ c, s.head? = some c ∧ isSpace c = false ∧ c ≠ ']'

theorem BeginsValue.stops (h : BeginsValue s) : Stops isSpace s := by
  obtain ⟨c, hs, hc, -⟩ := h
  intro d hd
  rwa [← Option.some.inj (hs.symm.trans hd)]

theorem beginsValue_cons {c : Char} (hc : isSpace c = false) (hend : c ≠ ']') :
    BeginsValue (c :: s) := ⟨c, rfl, hc, hend⟩

def Tree.Begins : Tree → Char → Prop
  | .null, c => c = 'n'
  | .bool true, c => c = 't'
  | .bool false, c => c = 'f'
  | .number _, c => c = '-' ∨ isDigit c = true
  | .text _, c => c = '"'
  | .array _, c => c = '['
  | .object _, c => c = '\x7b'

theorem Writes.exists_cons {v : Tree} (h : Writes (.value v) t) :
    ∃ c l, t = c :: l ∧ v.Begins c := by
  cases h with
  | bool b => cases b <;> exact ⟨_, _, rfl, rfl⟩
  | number h => exact h.exists_cons
  | null | text | array | object => exact ⟨_, _, rfl, rfl⟩

theorem not_blank_of_digit {c : Char} (h : c = '-' ∨ isDigit c = true) :
    isSpace c = false ∧ c ≠ ']' := by
  have hc (d : Char) (hd : ¬(d = '-' ∨ isDigit d = true)) : c ≠ d := by
    rintro rfl
    exact hd h
  refine ⟨?_, hc ']' (by decide)⟩
  simp [isSpace, hc ' ' (by decide), hc '\n' (by decide), hc '\t' (by decide),
    hc '\r' (by decide)]

theorem Tree.Begins.not_blank {v : Tree} {c : Char} (h : v.Begins c) :
    isSpace c = false ∧ c ≠ ']' := by
  cases v with
  | bool b => cases b <;> cases h <;> decide
  | number n => exact not_blank_of_digit h
  | null | text | array | object => cases h; decide

theorem Tree.Begins.eq_text {v : Tree} (h : v.Begins '"') : ∃ s, v = .text s := by
  cases v with
  | text s => exact ⟨s, rfl⟩
  | bool b => cases b <;> exact absurd h (by simp [Tree.Begins])
  | null | number | array | object => exact absurd h (by simp [Tree.Begins, isDigit])

theorem Tree.Begins.eq_array {v : Tree} (h : v.Begins '[') : ∃ vs, v = .array vs := by
  cases v with
  | array vs => exact ⟨vs, rfl⟩
  | bool b => cases b <;> exact absurd h (by simp [Tree.Begins])
  | null | number | text | object => exact absurd h (by simp [Tree.Begins, isDigit])

theorem Tree.Begins.eq_object {v : Tree} (h : v.Begins '\x7b') : ∃ ms, v = .object ms := by
  cases v with
  | object ms => exact ⟨ms, rfl⟩
  | bool b => cases b <;> exact absurd h (by simp [Tree.Begins])
  | null | number | text | array => exact absurd h (by simp [Tree.Begins, isDigit])

theorem Writes.beginsValue {v : Tree} (h : Writes (.value v) t) (s : List Char) :
    BeginsValue (t ++ s) := by
  obtain ⟨c, l, rfl, hc⟩ := h.exists_cons
  exact beginsValue_cons hc.not_blank.1 hc.not_blank.2

theorem Writes.length_pos {v : Tree} (h : Writes (.value v) t) : 0 < t.length := by
  obtain ⟨c, l, rfl, -⟩ := h.exists_cons
  exact Nat.succ_pos _

theorem endsNumeral_blanks (hw : Blanks w) (hs : EndsNumeral s) : EndsNumeral (w ++ s) := by
  cases w with
  | nil => exact hs
  | cons c w =>
      have hc := hw c (.head _)
      simp only [isSpace, Bool.or_eq_true, decide_eq_true_eq] at hc
      rcases hc with ((rfl | rfl) | rfl) | rfl <;> exact stops_cons rfl

theorem Writes.endsNumeral_moreItems {vs : List Tree} (h : Writes (.moreItems vs) t)
    (s : List Char) : EndsNumeral (t ++ ']' :: s) := by
  cases h with
  | noMoreItems hw => exact endsNumeral_blanks hw (stops_cons rfl)
  | moreItems hw =>
      rw [List.append_assoc]
      exact endsNumeral_blanks hw (stops_cons rfl)

theorem Writes.endsNumeral_moreMembers {ms : List (String × Tree)} (h : Writes (.moreMembers ms) t)
    (s : List Char) : EndsNumeral (t ++ '\x7d' :: s) := by
  cases h with
  | noMoreMembers hw => exact endsNumeral_blanks hw (stops_cons rfl)
  | moreMembers hw =>
      rw [List.append_assoc]
      exact endsNumeral_blanks hw (stops_cons rfl)

namespace Reader

theorem takes_moreElements_first (hw : Blanks w) (hs : BeginsValue s) :
    (moreElements true).Takes (w ++ s) s true := by
  refine (takes_peekPastSpace hw hs.stops).bind ?_
  obtain ⟨c, hc, -, hend⟩ := hs
  rw [hc]
  split
  · next heq => cases heq
  · next heq => exact absurd (Option.some.inj heq) hend
  · exact takes_pure true

theorem takes_moreElements_end (first : Bool) (hw : Blanks w) :
    (moreElements first).Takes (w ++ ']' :: s) (']' :: s) false :=
  (takes_peekPastSpace hw (stops_cons rfl)).bind (takes_pure false)

theorem takes_moreElements_next {w' : List Char} (hw : Blanks w) (hw' : Blanks w')
    (hs : BeginsValue s) : (moreElements false).Takes (w ++ ',' :: (w' ++ s)) s true := by
  refine (takes_peekPastSpace hw (stops_cons rfl)).bind ((takes_eat ',' _).bind ?_)
  refine (takes_peekPastSpace hw' hs.stops).bind ?_
  obtain ⟨c, hc, -, hend⟩ := hs
  rw [hc]
  split
  · next heq => cases heq
  · next heq => exact absurd (Option.some.inj heq) hend
  · exact takes_pure true

theorem takes_moreMembers_first (hw : Blanks w) :
    (moreMembers true).Takes (w ++ '"' :: s) ('"' :: s) true :=
  (takes_peekPastSpace hw (stops_cons rfl)).bind (takes_pure true)

theorem takes_moreMembers_end (first : Bool) (hw : Blanks w) :
    (moreMembers first).Takes (w ++ '\x7d' :: s) ('\x7d' :: s) false :=
  (takes_peekPastSpace hw (stops_cons rfl)).bind (takes_pure false)

theorem takes_moreMembers_next {w' : List Char} (hw : Blanks w) (hw' : Blanks w') :
    (moreMembers false).Takes (w ++ ',' :: (w' ++ '"' :: s)) ('"' :: s) true :=
  (takes_peekPastSpace hw (stops_cons rfl)).bind ((takes_eat ',' _).bind
    ((takes_peekPastSpace hw' (stops_cons rfl)).bind (takes_pure true)))

theorem takes_colon (hw : Blanks w) : colon.Takes (w ++ ':' :: s) s () :=
  (takes_peekPastSpace hw (stops_cons rfl)).bind (takes_eat ':' s)

theorem takes_endList (hw : Blanks w) : endList.Takes (w ++ ']' :: s) s () :=
  (takes_peekPastSpace hw (stops_cons rfl)).bind (takes_eat ']' s)

theorem fails_endList (hw : Blanks w) (hs : BeginsValue s) : endList.Fails (w ++ s) := by
  refine (takes_peekPastSpace hw hs.stops).bind_fails ?_
  obtain ⟨c, hc, -, hend⟩ := hs
  cases s with
  | nil => cases hc
  | cons d s =>
      cases hc
      rw [List.head?_cons]
      split
      · next heq => cases heq
      · next heq => exact absurd (Option.some.inj heq) hend
      · refine (takes_eat c s).bind_fails ?_
        obtain ⟨t, ht⟩ := exists_takes_peekPastSpace s
        refine ht.bind_fails ?_
        split <;> exact fails_failAhead _
      · exact fails_failAhead _

theorem takes_endObject (hw : Blanks w) : endObject.Takes (w ++ '\x7d' :: s) s () :=
  (takes_peekPastSpace hw (stops_cons rfl)).bind (takes_eat '\x7d' s)

end Reader

end GraphLens.Json
