import GraphLens.Proofs.Json.Separators

namespace GraphLens.Json

open Reader

variable {s t w : List Char}

namespace Reader

theorem takes_skipKey {k cs : List Char} (hw : Blanks w) (hk : Spells cs k) {w' : List Char}
    (hw' : Blanks w') : skipKey.Takes (w ++ '"' :: (k ++ '"' :: (w' ++ ':' :: s))) s () :=
  (takes_peekPastSpace hw (stops_cons rfl)).bind ((takes_eat '"' _).bind
    ((takes_skipText hk _).bind (takes_colon hw')))

section

variable {brackets : List Bracket}

theorem takes_skipStep_word {c : Char} {l : List Char} (hw : Blanks w)
    (hc : (c, l) ∈ [('n', ['u', 'l', 'l']), ('t', ['r', 'u', 'e']), ('f', ['a', 'l', 's', 'e'])]) :
    (skipStep (.value brackets)).Takes (w ++ c :: (l ++ s)) s (some (.separator brackets)) := by
  simp only [List.mem_cons, Prod.mk.injEq, List.not_mem_nil, or_false] at hc
  rcases hc with ⟨rfl, rfl⟩ | ⟨rfl, rfl⟩ | ⟨rfl, rfl⟩ <;>
    exact (takes_peekPastSpace hw (stops_cons rfl)).bind
      ((takes_eat _ _).bind ((takes_word _ s).bind (takes_pure _)))

theorem takes_skipStep_text {cs : List Char} (hw : Blanks w) (h : Spells cs t) :
    (skipStep (.value brackets)).Takes (w ++ '"' :: (t ++ '"' :: s)) s
      (some (.separator brackets)) :=
  (takes_peekPastSpace hw (stops_cons rfl)).bind
    ((takes_eat '"' _).bind ((takes_skipText h s).bind (takes_pure _)))

theorem takes_skipStep_number {n : Numeral} (hw : Blanks w) (h : NumeralText n t)
    (hs : EndsNumeral s) :
    (skipStep (.value brackets)).Takes (w ++ (t ++ s)) s (some (.separator brackets)) := by
  have begins := (Writes.number h).beginsValue s
  have skips := takes_skipNumber h hs
  refine (takes_peekPastSpace hw begins.stops).bind ?_
  obtain ⟨c, rest, rfl, hc⟩ := h.exists_cons
  rw [List.cons_append, List.head?_cons]
  split
  case h_1 heq => cases heq
  case h_8 heq =>
      cases heq
      rw [if_pos hc]
      exact skips.bind (takes_pure _)
  all_goals
    next heq =>
      cases heq
      exact absurd hc (by decide)

theorem takes_skipOpening_list (hs : BeginsValue s) (hw : Blanks w) :
    (skipOpening .list brackets).Takes ('[' :: (w ++ s)) s (.value (.list :: brackets)) := by
  refine (takes_eat '[' _).bind ((takes_peekPastSpace hw hs.stops).bind ?_)
  obtain ⟨c, hc, -, hend⟩ := hs
  rw [hc]
  split
  · next heq => cases heq
  · contradiction
  · next heq => exact absurd (Option.some.inj heq) hend
  · contradiction
  · exact takes_pure _
  · contradiction

theorem takes_skipOpening_noItems (hw : Blanks w) :
    (skipOpening .list brackets).Takes ('[' :: (w ++ ']' :: s)) s (.separator brackets) :=
  (takes_eat _ _).bind ((takes_peekPastSpace hw (stops_cons rfl)).bind
    ((takes_eat _ _).bind (takes_pure _)))

theorem takes_skipOpening_noMembers (hw : Blanks w) :
    (skipOpening .object brackets).Takes ('\x7b' :: (w ++ '\x7d' :: s)) s (.separator brackets) :=
  (takes_eat _ _).bind ((takes_peekPastSpace hw (stops_cons rfl)).bind
    ((takes_eat _ _).bind (takes_pure _)))

theorem takes_skipOpening_object {k cs w₁ : List Char} (hw : Blanks w) (hk : Spells cs k)
    (hw₁ : Blanks w₁) :
    (skipOpening .object brackets).Takes
      ('\x7b' :: (w ++ '"' :: (k ++ '"' :: (w₁ ++ ':' :: s)))) s (.value (.object :: brackets)) :=
  (takes_eat _ _).bind ((takes_peekPastSpace hw (stops_cons rfl)).bind
    ((takes_skipKey blanks_nil hk hw₁).bind (takes_pure _)))

/-- What the loop does at a piece: it goes on as it does behind it, with the brackets that were
open before. -/
def Skips : Piece → List Char → Prop
  | .value _, t => ∀ (brackets : List Bracket) (w s u : List Char) (o : Option Pending),
      Blanks w → EndsNumeral s → Loops skipStep (.separator brackets) s u o →
        Loops skipStep (.value brackets) (w ++ (t ++ s)) u o
  | .items _, t => ∀ (brackets : List Bracket) (w s u : List Char) (o : Option Pending),
      Blanks w → Loops skipStep (.separator brackets) s u o →
        Loops skipStep (.value brackets) (w ++ '[' :: (t ++ ']' :: s)) u o
  | .moreItems _, t => ∀ (brackets : List Bracket) (s u : List Char) (o : Option Pending),
      Loops skipStep (.separator brackets) s u o →
        Loops skipStep (.separator (.list :: brackets)) (t ++ ']' :: s) u o
  | .members _, t => ∀ (brackets : List Bracket) (w s u : List Char) (o : Option Pending),
      Blanks w → Loops skipStep (.separator brackets) s u o →
        Loops skipStep (.value brackets) (w ++ '\x7b' :: (t ++ '\x7d' :: s)) u o
  | .moreMembers _, t => ∀ (brackets : List Bracket) (s u : List Char) (o : Option Pending),
      Loops skipStep (.separator brackets) s u o →
        Loops skipStep (.separator (.object :: brackets)) (t ++ '\x7d' :: s) u o

theorem skips_of_writes {p : Piece} (h : Writes p t) : Skips p t := by
  -- A leaf takes one round. An opening bracket joins the stack, and the rest of its piece is passed
  -- over with it on top, up to the round that closes it.
  induction h with
  | null =>
      intro brackets w s u o hw hs rest
      exact .next (takes_skipStep_word hw (.head _)) (by simp; omega) rest
  | bool b =>
      intro brackets w s u o hw hs rest
      cases b with
      | true => exact .next (takes_skipStep_word hw (.tail _ (.head _))) (by simp; omega) rest
      | false =>
          exact .next (takes_skipStep_word hw (.tail _ (.tail _ (.head _)))) (by simp; omega) rest
  | number h =>
      intro brackets w s u o hw hs rest
      refine .next (takes_skipStep_number hw h hs) ?_ rest
      obtain ⟨c, l, rfl, -⟩ := h.exists_cons
      simp
      omega
  | text h =>
      intro brackets w s u o hw hs rest
      rw [List.cons_append, List.append_assoc]
      exact .next (takes_skipStep_text hw h) (by simp; omega) rest
  | array h ih =>
      intro brackets w s u o hw hs rest
      rw [List.cons_append, List.append_assoc]
      exact ih brackets w s u o hw rest
  | object h ih =>
      intro brackets w s u o hw hs rest
      rw [List.cons_append, List.append_assoc]
      exact ih brackets w s u o hw rest
  | @noItems w' hw' =>
      intro brackets w s u o hw rest
      refine .next (t := s) ?_ (by simp; omega) rest
      exact (takes_peekPastSpace hw (stops_cons rfl)).bind
        ((takes_skipOpening_noItems hw').bind (takes_pure _))
  | @items v vs w' t t' hw' first rest ihFirst ihRest =>
      intro brackets w s u o hw rest'
      have within := ihFirst (.list :: brackets) [] (t' ++ ']' :: s) u o blanks_nil
        (rest.endsNumeral_moreItems s) (ihRest brackets s u o rest')
      simp only [List.append_assoc]
      refine .next ?_ (by simp; omega) within
      exact (takes_peekPastSpace hw (stops_cons rfl)).bind
        ((takes_skipOpening_list (first.beginsValue _) hw').bind (takes_pure _))
  | noMoreItems hw =>
      intro brackets s u o rest
      refine .next (t := s) ?_ (by simp; omega) rest
      exact (takes_peekPastSpace hw (stops_cons rfl)).bind ((takes_eat _ _).bind (takes_pure _))
  | @moreItems v vs w w' t t' hw hw' next rest ihNext ihRest =>
      intro brackets s u o rest'
      have within := ihNext (.list :: brackets) w' (t' ++ ']' :: s) u o hw'
        (rest.endsNumeral_moreItems s) (ihRest brackets s u o rest')
      simp only [List.append_assoc, List.cons_append]
      refine .next ?_ (by simp; omega) within
      exact (takes_peekPastSpace hw (stops_cons rfl)).bind ((takes_eat _ _).bind (takes_pure _))
  | @noMembers w' hw' =>
      intro brackets w s u o hw rest
      refine .next (t := s) ?_ (by simp; omega) rest
      exact (takes_peekPastSpace hw (stops_cons rfl)).bind
        ((takes_skipOpening_noMembers hw').bind (takes_pure _))
  | @members name v ms w' k w₁ w₂ t t' hw' key hw₁ hw₂ first rest ihFirst ihRest =>
      intro brackets w s u o hw rest'
      have within := ihFirst (.object :: brackets) w₂ (t' ++ '\x7d' :: s) u o hw₂
        (rest.endsNumeral_moreMembers s) (ihRest brackets s u o rest')
      simp only [memberText, List.append_assoc, List.cons_append]
      refine .next ?_ (by simp; omega) within
      exact (takes_peekPastSpace hw (stops_cons rfl)).bind
        ((takes_skipOpening_object hw' key hw₁).bind (takes_pure _))
  | noMoreMembers hw =>
      intro brackets s u o rest
      refine .next (t := s) ?_ (by simp; omega) rest
      exact (takes_peekPastSpace hw (stops_cons rfl)).bind ((takes_eat _ _).bind (takes_pure _))
  | @moreMembers name v ms w w' k w₁ w₂ t t' hw hw' key hw₁ hw₂ next rest ihNext ihRest =>
      intro brackets s u o rest'
      have within := ihNext (.object :: brackets) w₂ (t' ++ '\x7d' :: s) u o hw₂
        (rest.endsNumeral_moreMembers s) (ihRest brackets s u o rest')
      simp only [memberText, List.append_assoc, List.cons_append]
      refine .next ?_ (by simp; omega) within
      exact (takes_peekPastSpace hw (stops_cons rfl)).bind ((takes_eat _ _).bind
        ((takes_skipKey hw' key hw₁).bind (takes_pure _)))

theorem takes_skipValue {v : Tree} (h : Writes (.value v) t) (hw : Blanks w)
    (hs : EndsNumeral s) : skipValue.Takes (w ++ (t ++ s)) s () := by
  have closed : Loops skipStep (.separator []) s s (some (.separator [])) := .stop (takes_pure none)
  exact Takes.bind (skips_of_writes h [] w s s _ hw hs closed).answers (takes_pure ())

end

end Reader

end GraphLens.Json
