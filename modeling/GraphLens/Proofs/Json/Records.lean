import GraphLens.Json.Record
import GraphLens.Proofs.Json.Skipping
import GraphLens.Proofs.Json.Values

namespace GraphLens.Json

open Reader

variable {s t u w : List Char}

def valuesOf (name : String) (ms : List (String × Tree)) : List Tree :=
  (ms.filter (·.1 == name)).map (·.2)

/-- A member is put where there is none yet. -/
def put {α : Type} (f : Tree → Option α) (old : Option α) (v : Tree) : Option (Option α) :=
  if old.isSome then none else (f v).map some

def fill {α : Type} (f : Tree → Option α) (old : Option α) (vs : List Tree) : Option (Option α) :=
  vs.foldlM (put f) old

theorem fill_cons {α : Type} (f : Tree → Option α) (old : Option α) (v : Tree) (vs : List Tree) :
    fill f old (v :: vs) = (put f old v).bind fun a => fill f a vs := rfl

theorem fill_some_eq_some_iff {α : Type} {f : Tree → Option α} {vs : List Tree} {a : α}
    {o : Option α} : fill f (some a) vs = some o ↔ vs = [] ∧ o = some a := by
  cases vs with
  | nil => simp [fill, eq_comm]
  | cons v vs => simp [fill_cons, put]

theorem fill_none_eq_some_iff {α : Type} {f : Tree → Option α} {vs : List Tree} {a : α} :
    fill f none vs = some (some a) ↔ ∃ v, vs = [v] ∧ f v = some a := by
  cases vs with
  | nil => simp [fill]
  | cons v vs => simp [fill_cons, put, Option.bind_eq_some_iff, fill_some_eq_some_iff, and_comm]

theorem fill_none_eq_some_none_iff {α : Type} {f : Tree → Option α} {vs : List Tree} :
    fill f none vs = some none ↔ vs = [] := by
  cases vs with
  | nil => simp [fill]
  | cons v vs => simp [fill_cons, put, Option.bind_eq_some_iff, fill_some_eq_some_iff]

theorem valuesOf_cons (name : String) (m : String × Tree) (ms : List (String × Tree)) :
    valuesOf name (m :: ms) = if m.1 = name then m.2 :: valuesOf name ms else valuesOf name ms := by
  simp only [valuesOf, List.filter_cons, beq_iff_eq]
  split <;> rfl

theorem map_put {α δ : Type} (f : Tree → Option α) (old : Option α) (v : Tree)
    (g : Option α → δ) :
    (put f old v).map g = if old.isSome then none else (f v).map fun a => g (some a) := by
  unfold put
  split
  · rfl
  · rw [Option.map_map]
    rfl

section

variable {δ β : Type} (r : Record δ β) (take : String → δ → Tree → Option δ)

/-- The field reads a value into a draft as `take` does. -/
def Field.ReadsAs (field : Field δ) : Prop :=
  ∀ (draft : δ) (v : Tree) (t w s : List Char), Writes (.value v) t → Blanks w → EndsNumeral s →
    (field.read draft).Answers (w ++ (t ++ s)) s (take field.name draft v)

namespace Record

/-- The draft with one more member. A declared one is taken once, any other is ignored. -/
def addMember (draft : δ) (m : String × Tree) : Option δ :=
  match r.fields.find? (·.name == m.1) with
  | some field => if field.isSet draft then none else take m.1 draft m.2
  | none => some draft

def finish? (draft : δ) : Option β := (r.finish draft).toOption

def ofItems? : List (Field δ) → δ → List Tree → Option β
  | [], draft, [] => r.finish? draft
  | [], _, _ :: _ => none
  | _ :: _, draft, [] => if r.mayEndEarly then r.finish? draft else none
  | field :: fields, draft, v :: vs =>
      (take field.name draft v).bind fun draft => ofItems? fields draft vs

def ofTree? : Tree → Option β
  | .object ms => (ms.foldlM (r.addMember take) r.blank).bind r.finish?
  | .array vs => r.ofItems? take r.fields r.blank vs
  | _ => none

variable {r take}

theorem addMember_of_not_mem {name : String} (h : name ∉ r.fields.map (·.name)) (draft : δ)
    (v : Tree) : r.addMember take draft (name, v) = some draft := by
  have hfind : r.fields.find? (·.name == name) = none := by
    rw [List.find?_eq_none]
    intro field hfield heq
    rw [beq_iff_eq] at heq
    subst heq
    exact h (List.mem_map_of_mem hfield)
  unfold addMember
  rw [hfind]

theorem answers_complete (draft : δ) : (r.complete draft).Answers s s (r.finish? draft) := by
  unfold complete finish?
  cases r.finish draft with
  | ok b => exact takes_pure b
  | error cause => exact fails_reject cause

theorem answers_positional_end {fields : List (Field δ)} {draft : δ} (count : Nat)
    (hw : Blanks w) :
    (within (r.positional fields count draft) endList).Answers (w ++ ']' :: s) s
      (r.ofItems? take fields draft []) := by
  have hclose : endList.Takes (w ++ ']' :: s) s () := takes_endList hw
  cases fields with
  | nil => exact (answers_complete draft).within hclose
  | cons field fields =>
      have hbody : (r.positional (field :: fields) count draft).Answers (w ++ ']' :: s) (']' :: s)
          (r.ofItems? take (field :: fields) draft []) := by
        refine (takes_moreElements_end (count == 0) hw).answers ?_
        simp only [Bool.false_eq_true, if_false, ofItems?]
        by_cases hearly : r.mayEndEarly = true
        · rw [if_pos hearly, if_pos hearly]
          exact answers_complete draft
        · rw [if_neg hearly, if_neg hearly]
          exact fails_reject _
      exact hbody.within (takes_endList blanks_nil)

theorem answers_positional_next {field : Field δ} {fields : List (Field δ)} {draft : δ}
    {count : Nat} {v : Tree} {vs : List Tree} {a : List Char} (reads : field.ReadsAs take)
    (more : (moreElements (count == 0)).Takes a (t ++ u) true) (h : Writes (.value v) t)
    (hu : EndsNumeral u)
    (rest : ∀ draft, (within (r.positional fields (count + 1) draft) endList).Answers u s
      (r.ofItems? take fields draft vs)) :
    (within (r.positional (field :: fields) count draft) endList).Answers a s
      (r.ofItems? take (field :: fields) draft (v :: vs)) :=
  more.within_bind ((reads draft v t [] u h blanks_nil hu).within_bind rest)

theorem answers_positional_more {fields : List (Field δ)} {draft : δ} {count : Nat}
    {vs : List Tree} (reads : ∀ field ∈ fields, field.ReadsAs take)
    (h : Writes (.moreItems vs) t) (s : List Char) :
    (within (r.positional fields (count + 1) draft) endList).Answers (t ++ ']' :: s) s
      (r.ofItems? take fields draft vs) := by
  induction vs generalizing fields draft count t with
  | nil =>
      cases h with
      | noMoreItems hw => exact answers_positional_end (count + 1) hw
  | cons v vs ih =>
      cases h with
      | moreItems hw hw' next rest =>
          simp only [List.append_assoc, List.cons_append]
          cases fields with
          | nil =>
              -- The record is complete by itself; the bracket does not follow.
              exact (answers_complete draft).within_fails
                (fails_endList hw (beginsValue_cons rfl (by decide)))
          | cons field fields =>
              exact answers_positional_next (reads field (.head _))
                (takes_moreElements_next hw hw' (next.beginsValue _)) next
                (rest.endsNumeral_moreItems s)
                fun draft => ih (fun f hf => reads f (.tail _ hf)) rest

theorem answers_positional {fields : List (Field δ)} {draft : δ} {vs : List Tree}
    (reads : ∀ field ∈ fields, field.ReadsAs take) (h : Writes (.items vs) t) (s : List Char) :
    (within (r.positional fields 0 draft) endList).Answers (t ++ ']' :: s) s
      (r.ofItems? take fields draft vs) := by
  cases h with
  | noItems hw => exact answers_positional_end 0 hw
  | items hw first rest =>
      simp only [List.append_assoc]
      cases fields with
      | nil =>
          exact (answers_complete draft).within_fails (fails_endList hw (first.beginsValue _))
      | cons field fields =>
          exact answers_positional_next (reads field (.head _))
            (takes_moreElements_first hw (first.beginsValue _)) first
            (rest.endsNumeral_moreItems s)
            fun draft => answers_positional_more (fun f hf => reads f (.tail _ hf)) rest s

theorem answers_member {first : Bool} (draft : δ) {name : String} {v : Tree}
    {a k w₁ w₂ : List Char} (reads : ∀ field ∈ r.fields, field.ReadsAs take)
    (more : (moreMembers first).Takes a (memberText k w₁ w₂ t ++ u) true)
    (hk : Spells name.toList k) (hw₁ : Blanks w₁) (hw₂ : Blanks w₂) (h : Writes (.value v) t)
    (hu : EndsNumeral u) :
    (r.member (first, draft)).Answers a u
      ((r.addMember take draft (name, v)).map fun draft => some (false, draft)) := by
  simp only [memberText, List.append_assoc, List.cons_append] at more
  refine more.answers ((takes_key hk _).answers ?_)
  unfold addMember
  cases hfind : r.fields.find? (·.name == name) with
  | none => exact (takes_colon hw₁).bind ((takes_skipValue h hw₂ hu).bind (takes_pure _))
  | some field =>
      have hname : field.name = name := by simpa using List.find?_some hfind
      have hread := reads field (List.mem_of_find?_eq_some hfind) draft v t w₂ u h hw₂ hu
      rw [hname] at hread
      by_cases hset : field.isSet draft = true
      · simp only [hset, if_true]
        exact fails_reject _
      · simp only [hset, Bool.false_eq_true, if_false]
        exact (takes_colon hw₁).answers (hread.map _)

theorem loops_member_more {draft : δ} {ms : List (String × Tree)}
    (reads : ∀ field ∈ r.fields, field.ReadsAs take) (h : Writes (.moreMembers ms) t)
    (s : List Char) :
    Loops r.member (false, draft) (t ++ '\x7d' :: s) ('\x7d' :: s)
      ((ms.foldlM (r.addMember take) draft).map (false, ·)) := by
  induction ms generalizing draft t with
  | nil =>
      cases h with
      | noMoreMembers hw => exact .stop ((takes_moreMembers_end false hw).bind (takes_pure none))
  | cons m ms ih =>
      cases h with
      | @moreMembers name v _ w w' k w₁ w₂ t t' hw hw' key hw₁ hw₂ next rest =>
          have step := answers_member draft reads (takes_moreMembers_next hw hw') key hw₁ hw₂ next
            (rest.endsNumeral_moreMembers s)
          rw [List.foldlM_cons, Option.bind_eq_bind, Option.map_bind]
          simp only [List.append_assoc, List.cons_append]
          exact .of_answers step (by simp [memberText]; omega) fun draft => ih rest

theorem loops_member (draft : δ) {ms : List (String × Tree)}
    (reads : ∀ field ∈ r.fields, field.ReadsAs take) (h : Writes (.members ms) t)
    (s : List Char) :
    Loops r.member (true, draft) (t ++ '\x7d' :: s) ('\x7d' :: s)
      ((ms.foldlM (r.addMember take) draft).map (ms.isEmpty, ·)) := by
  cases h with
  | noMembers hw => exact .stop ((takes_moreMembers_end true hw).bind (takes_pure none))
  | @members name v ms w k w₁ w₂ t t' hw key hw₁ hw₂ first rest =>
      have step := answers_member draft reads (takes_moreMembers_first hw) key hw₁ hw₂ first
        (rest.endsNumeral_moreMembers s)
      rw [List.foldlM_cons, Option.bind_eq_bind, Option.map_bind]
      simp only [List.append_assoc]
      exact .of_answers step (by simp [memberText]; omega)
        fun draft => loops_member_more reads rest s

theorem answers_members {ms : List (String × Tree)}
    (reads : ∀ field ∈ r.fields, field.ReadsAs take) (h : Writes (.members ms) t)
    (s : List Char) :
    r.members.Answers (t ++ '\x7d' :: s) ('\x7d' :: s)
      ((ms.foldlM (r.addMember take) r.blank).bind r.finish?) := by
  have hloop := (loops_member r.blank reads h s).answers
  have hmembers := hloop.bind fun state => answers_complete (r := r) state.2
  rwa [Option.bind_map] at hmembers

theorem answers_read {v : Tree} (reads : ∀ field ∈ r.fields, field.ReadsAs take)
    (h : Writes (.value v) t) (hw : Blanks w) (s : List Char) :
    r.read.Answers (w ++ (t ++ s)) s (r.ofTree? take v) := by
  refine Answers.located ((takes_peekPastSpace hw (h.beginsValue s).stops).answers ?_)
  obtain ⟨c, l, rfl, hc⟩ := h.exists_cons
  rw [List.cons_append, List.head?_cons]
  split
  case h_1 heq => cases heq
  case h_2 heq =>
      cases heq
      obtain ⟨vs, rfl⟩ := hc.eq_array
      generalize ht : '[' :: l = t at h
      cases h with
      | @array _ t h =>
          cases ht
          rw [List.append_assoc]
          exact (takes_eat _ _).answers (answers_positional reads h s)
  case h_3 heq =>
      cases heq
      obtain ⟨ms, rfl⟩ := hc.eq_object
      generalize ht : '\x7b' :: l = t at h
      cases h with
      | @object _ t h =>
          cases ht
          rw [List.append_assoc]
          exact (takes_eat _ _).answers
            ((answers_members reads h s).within (takes_endObject blanks_nil))
  case h_4 hlist hobject heq =>
      cases heq
      cases v with
      | array vs => exact absurd hc hlist
      | object ms => exact absurd hc hobject
      | null | bool | number | text => exact fails_invalidType r.title c

theorem readAll_read_iff {v : Tree} {raw : String} {b : β}
    (reads : ∀ field ∈ r.fields, field.ReadsAs take) (h : v.IsText raw) :
    readAll r.read raw = .ok b ↔ r.ofTree? take v = some b := by
  obtain ⟨w, t, w', hw, ht, hw', hraw⟩ := h
  have hread := answers_read reads ht hw w'
  rw [← hraw] at hread
  exact readAll_eq_ok_iff hread hw'

end Record

end

end GraphLens.Json
