import GraphLens.Proofs.Json.Separators

namespace GraphLens.Json

open Reader

variable {s t w : List Char}

/-- The value as it is kept, if there is room for its parts. -/
def Tree.value? : Nat → Tree → Option Value
  | _, .null => some .null
  | _, .bool b => some (.bool b)
  | _, .number n => n.toNumber.toOption.map .number
  | _, .text s => some (.text s)
  | 0, .array _ => none
  | room + 1, .array vs => (vs.mapM (value? room)).map .array
  | 0, .object _ => none
  | room + 1, .object ms => (ms.mapM fun m => (value? room m.2).map (m.1, ·)).map .object

def Tree.text? : Tree → Option String
  | .text s => some s
  | _ => none

theorem Tree.text?_eq_some_iff {v : Tree} {s : String} : v.text? = some s ↔ v = .text s := by
  cases v <;> simp [Tree.text?]

namespace Reader

variable {β : Type}

def elementsStep (item : Reader β) (read : List β) : Reader (Option (List β)) := do
  if ← moreElements read.isEmpty then return some ((← item) :: read) else return none

theorem list_eq (item : Reader β) : list item = (do
    eat
    within (do return (← iterate (elementsStep item) []).reverse) endList) := rfl

def membersStep (item : Reader β) (read : List (String × β)) :
    Reader (Option (List (String × β))) := do
  if ← moreMembers read.isEmpty then
    let name ← key
    colon
    return some ((name, ← item) :: read)
  else return none

theorem object_eq (item : Reader β) : object item = (do
    eat
    within (do return (← iterate (membersStep item) []).reverse) endObject) := rfl

theorem map_reverse_append_nil {α : Type} (o : Option (List α)) :
    o.map (List.reverse ∘ fun as => as.reverse ++ []) = o := by
  cases o <;> simp

theorem bind_mapM_reverse {α : Type} (f : α → Option β) (a : α) (as : List α) (read : List β) :
    ((f a).bind fun b => (as.mapM f).map fun bs => bs.reverse ++ b :: read) =
      ((a :: as).mapM f).map fun bs => bs.reverse ++ read := by
  rw [List.mapM_cons]
  cases f a with
  | none => rfl
  | some b => cases as.mapM f <;> simp

theorem answers_list {item : Reader β} {o : Option (List β)}
    (h : Loops (elementsStep item) [] t (']' :: s) (o.map fun items => items.reverse ++ [])) :
    (list item).Answers ('[' :: t) s o := by
  rw [list_eq]
  have hitems := h.answers.map List.reverse
  rw [Option.map_map, map_reverse_append_nil] at hitems
  exact (takes_eat '[' t).answers (hitems.within (takes_endList blanks_nil))

theorem answers_object {item : Reader β} {o : Option (List (String × β))}
    (h : Loops (membersStep item) [] t ('\x7d' :: s)
      (o.map fun members => members.reverse ++ [])) :
    (object item).Answers ('\x7b' :: t) s o := by
  rw [object_eq]
  have hmembers := h.answers.map List.reverse
  rw [Option.map_map, map_reverse_append_nil] at hmembers
  exact (takes_eat _ t).answers (hmembers.within (takes_endObject blanks_nil))

theorem answers_elementsStep_first {item : Reader β} {o : Option β} (hw : Blanks w)
    (hs : BeginsValue s) (h : item.Answers s t o) :
    (elementsStep item []).Answers (w ++ s) t (o.map fun b => some [b]) :=
  (takes_moreElements_first hw hs).answers (h.map _)

theorem answers_elementsStep_next {item : Reader β} {o : Option β} (b : β) (read : List β)
    {w' : List Char} (hw : Blanks w) (hw' : Blanks w') (hs : BeginsValue s)
    (h : item.Answers s t o) :
    (elementsStep item (b :: read)).Answers (w ++ ',' :: (w' ++ s)) t
      (o.map fun a => some (a :: b :: read)) :=
  (takes_moreElements_next hw hw' hs).answers (h.map _)

theorem answers_membersStep_first {item : Reader β} {o : Option β} {name : String}
    {k w₁ : List Char} (hw : Blanks w) (hk : Spells name.toList k) (hw₁ : Blanks w₁)
    (h : item.Answers s t o) :
    (membersStep item []).Answers (w ++ '"' :: (k ++ '"' :: (w₁ ++ ':' :: s))) t
      ((o.map (name, ·)).map fun m => some [m]) := by
  rw [Option.map_map]
  exact (takes_moreMembers_first hw).answers
    ((takes_key hk _).answers ((takes_colon hw₁).answers (h.map _)))

theorem answers_membersStep_next {item : Reader β} {o : Option β} {name : String}
    (b : String × β) (read : List (String × β)) {k w' w₁ : List Char} (hw : Blanks w)
    (hw' : Blanks w') (hk : Spells name.toList k) (hw₁ : Blanks w₁) (h : item.Answers s t o) :
    (membersStep item (b :: read)).Answers
      (w ++ ',' :: (w' ++ '"' :: (k ++ '"' :: (w₁ ++ ':' :: s)))) t
      ((o.map (name, ·)).map fun m => some (m :: b :: read)) := by
  rw [Option.map_map]
  exact (takes_moreMembers_next hw hw').answers
    ((takes_key hk _).answers ((takes_colon hw₁).answers (h.map _)))

section

variable {inner : Option (Reader Value)}

theorem takes_valueWith_null (hw : Blanks w) :
    (valueWith inner).Takes (w ++ 'n' :: 'u' :: 'l' :: 'l' :: s) s .null :=
  (takes_peekPastSpace hw (stops_cons rfl)).bind
    ((takes_eat _ _).bind ((takes_word ['u', 'l', 'l'] s).bind (takes_pure _)))

theorem takes_valueWith_bool (b : Bool) (hw : Blanks w) :
    (valueWith inner).Takes
      (w ++ ((if b then ['t', 'r', 'u', 'e'] else ['f', 'a', 'l', 's', 'e']) ++ s)) s
      (.bool b) := by
  cases b with
  | true =>
      exact (takes_peekPastSpace hw (stops_cons rfl)).bind
        ((takes_eat _ _).bind ((takes_word ['r', 'u', 'e'] s).bind (takes_pure _)))
  | false =>
      exact (takes_peekPastSpace hw (stops_cons rfl)).bind
        ((takes_eat _ _).bind ((takes_word ['a', 'l', 's', 'e'] s).bind (takes_pure _)))

theorem takes_valueWith_text {name : String} (hw : Blanks w) (h : Spells name.toList t) :
    (valueWith inner).Takes (w ++ '"' :: (t ++ '"' :: s)) s (.text name) :=
  (takes_peekPastSpace hw (stops_cons rfl)).bind
    ((takes_eat _ _).bind ((takes_text h s).bind (takes_pure _)))

theorem answers_valueWith_number {n : Numeral} (hw : Blanks w) (h : NumeralText n t)
    (hs : EndsNumeral s) :
    (valueWith inner).Answers (w ++ (t ++ s)) s (n.toNumber.toOption.map .number) := by
  have begins := (Writes.number h).beginsValue s
  have reads := answers_number h hs
  refine (takes_peekPastSpace hw begins.stops).answers ?_
  obtain ⟨c, rest, rfl, hc⟩ := h.exists_cons
  rw [List.cons_append, List.head?_cons]
  split
  case h_1 heq => cases heq
  case h_8 heq =>
      cases heq
      rw [if_pos hc]
      exact reads.map _
  all_goals
    next heq =>
      cases heq
      exact absurd hc (by decide)

end

/-- What reading a piece answers, however much room there is. -/
def Reads : Piece → List Char → Prop
  | .value v, t => ∀ (room : Nat) (w s : List Char), Blanks w → EndsNumeral s →
      (value room).Answers (w ++ (t ++ s)) s (v.value? room)
  | .items vs, t => ∀ (room : Nat) (s : List Char),
      Loops (elementsStep (value room)) [] (t ++ ']' :: s) (']' :: s)
        ((vs.mapM (Tree.value? room)).map fun items => items.reverse ++ [])
  | .moreItems vs, t => ∀ (room : Nat) (a : Value) (read : List Value) (s : List Char),
      Loops (elementsStep (value room)) (a :: read) (t ++ ']' :: s) (']' :: s)
        ((vs.mapM (Tree.value? room)).map fun items => items.reverse ++ a :: read)
  | .members ms, t => ∀ (room : Nat) (s : List Char),
      Loops (membersStep (value room)) [] (t ++ '\x7d' :: s) ('\x7d' :: s)
        ((ms.mapM fun m : String × Tree => (m.2.value? room).map (m.1, ·)).map
          fun members => members.reverse ++ [])
  | .moreMembers ms, t => ∀ (room : Nat) (a : String × Value) (read : List (String × Value))
      (s : List Char),
      Loops (membersStep (value room)) (a :: read) (t ++ '\x7d' :: s) ('\x7d' :: s)
        ((ms.mapM fun m : String × Tree => (m.2.value? room).map (m.1, ·)).map
          fun members => members.reverse ++ a :: read)

theorem reads_of_writes {p : Piece} (h : Writes p t) : Reads p t := by
  -- Nested values have less room, so each piece is read for every room, with what was read before.
  induction h with
  | null =>
      intro room w s hw hs
      cases room <;> exact takes_valueWith_null hw
  | bool b =>
      intro room w s hw hs
      cases room <;> exact takes_valueWith_bool b hw
  | number h =>
      intro room w s hw hs
      cases room <;> exact answers_valueWith_number hw h hs
  | text h =>
      intro room w s hw hs
      rw [List.cons_append, List.append_assoc]
      cases room <;> exact takes_valueWith_text hw h
  | array h ih =>
      intro room w s hw hs
      rw [List.cons_append, List.append_assoc]
      cases room with
      | zero => exact (takes_peekPastSpace hw (stops_cons rfl)).bind_fails (fails_failAhead _)
      | succ room =>
          have hlist := answers_list (ih room s)
          exact (takes_peekPastSpace hw (stops_cons rfl)).answers (hlist.map _)
  | object h ih =>
      intro room w s hw hs
      rw [List.cons_append, List.append_assoc]
      cases room with
      | zero => exact (takes_peekPastSpace hw (stops_cons rfl)).bind_fails (fails_failAhead _)
      | succ room =>
          have hobject := answers_object (ih room s)
          exact (takes_peekPastSpace hw (stops_cons rfl)).answers (hobject.map _)
  | @noItems w' hw' =>
      intro room s
      exact .stop ((takes_moreElements_end true hw').bind (takes_pure none))
  | @items v vs w' t t' hw' first rest ihFirst ihRest =>
      intro room s
      have step := answers_elementsStep_first hw' (first.beginsValue _)
        (ihFirst room [] (t' ++ ']' :: s) blanks_nil (rest.endsNumeral_moreItems s))
      rw [← bind_mapM_reverse]
      simp only [List.append_assoc]
      have hpos := first.length_pos
      exact .of_answers step (by simp; omega) fun b => ihRest room b [] s
  | noMoreItems hw =>
      intro room a read s
      exact .stop ((takes_moreElements_end false hw).bind (takes_pure none))
  | @moreItems v vs w w' t t' hw hw' next rest ihNext ihRest =>
      intro room a read s
      have step := answers_elementsStep_next a read hw hw' (next.beginsValue _)
        (ihNext room [] (t' ++ ']' :: s) blanks_nil (rest.endsNumeral_moreItems s))
      rw [← bind_mapM_reverse]
      simp only [List.append_assoc, List.cons_append]
      exact .of_answers step (by simp; omega) fun b => ihRest room b (a :: read) s
  | @noMembers w' hw' =>
      intro room s
      exact .stop ((takes_moreMembers_end true hw').bind (takes_pure none))
  | @members name v ms w' k w₁ w₂ t t' hw' key hw₁ hw₂ first rest ihFirst ihRest =>
      intro room s
      have step := answers_membersStep_first hw' key hw₁
        (ihFirst room w₂ (t' ++ '\x7d' :: s) hw₂ (rest.endsNumeral_moreMembers s))
      rw [← bind_mapM_reverse]
      simp only [memberText, List.append_assoc, List.cons_append]
      exact .of_answers step (by simp; omega) fun m => ihRest room m [] s
  | noMoreMembers hw =>
      intro room a read s
      exact .stop ((takes_moreMembers_end false hw).bind (takes_pure none))
  | @moreMembers name v ms w w' k w₁ w₂ t t' hw hw' key hw₁ hw₂ next rest ihNext ihRest =>
      intro room a read s
      have step := answers_membersStep_next a read hw hw' key hw₁
        (ihNext room w₂ (t' ++ '\x7d' :: s) hw₂ (rest.endsNumeral_moreMembers s))
      rw [← bind_mapM_reverse]
      simp only [memberText, List.append_assoc, List.cons_append]
      exact .of_answers step (by simp; omega) fun m => ihRest room m (a :: read) s

theorem fails_invalidType (expected : String) (c : Char) :
    (invalidType expected c : Reader β).Fails s := by
  refine Answers.located (o := none) (t := s) ?_
  split
  case h_7 =>
    split
    · exact bind_fails_of_forall fun _ _ => bind_fails_of_forall fun _ _ => fails_reject _
    · exact bind_fails_of_forall fun _ _ => fails_reject _
  all_goals
    repeat refine bind_fails_of_forall fun _ _ => ?_
    exact fails_reject _

theorem answers_textAs (expected : String) {v : Tree} (h : Writes (.value v) t) (hw : Blanks w)
    (s : List Char) : (textAs expected).Answers (w ++ (t ++ s)) s v.text? := by
  obtain ⟨c, l, rfl, hc⟩ := h.exists_cons
  refine (takes_peekPastSpace hw (h.beginsValue s).stops).answers ?_
  rw [List.cons_append, List.head?_cons]
  split
  case h_1 heq => cases heq
  case h_2 heq =>
      cases heq
      obtain ⟨name, rfl⟩ := hc.eq_text
      generalize ht : '"' :: l = t at h
      cases h with
      | @text _ t h =>
          cases ht
          rw [List.append_assoc]
          exact (takes_eat _ _).bind (takes_text h s)
  case h_3 hmark heq =>
      cases heq
      cases v with
      | text name => exact absurd hc hmark
      | null | bool | number | array | object => exact fails_invalidType expected c

theorem answers_value {v : Tree} (h : Writes (.value v) t) (room : Nat) (hw : Blanks w)
    (hs : EndsNumeral s) : (value room).Answers (w ++ (t ++ s)) s (v.value? room) :=
  reads_of_writes h room w s hw hs

end Reader

end GraphLens.Json
