import GraphLens.Compile.Markup
import GraphLens.Proofs.Trimming
import Mathlib.Data.List.Basic

namespace GraphLens.Markup

open Text

structure Entry where
  token : List Char
  blanks : List Char
  free : ¬entryClose <:+: token
  areBlank : ∀ c ∈ blanks, isBlank c = true

/-- A code block of paragraphs; the blanks before the first one stand apart. -/
structure Block where
  blanks : List Char
  entries : List Entry
  areBlank : ∀ c ∈ blanks, isBlank c = true

def Entry.text (e : Entry) : List Char := entryOpen ++ e.token ++ entryClose ++ e.blanks

def Block.text (b : Block) : List Char :=
  blockOpen ++ b.blanks ++ b.entries.flatMap Entry.text ++ blockClose

def Block.tokens (b : Block) : List (List Char) := b.entries.map Entry.token

/-- No mark begins within another one, so the first place of a mark behind a text without it is
the end of that text. -/
theorem not_prefix_append {m c : Char} {ms t rest : List Char} (hm : m ∉ ms)
    (free : ¬(m :: ms) <:+: c :: t) : ¬(m :: ms) <+: c :: t ++ (m :: ms) ++ rest := by
  rintro ⟨behind, h⟩
  rw [List.append_assoc, List.append_eq_append_iff] at h
  rcases h with ⟨as, hct, -⟩ | ⟨bs, hmark, hrest⟩
  · exact free (hct ▸ List.infix_append' [] _ as)
  · cases bs with
    | nil =>
        rw [List.append_nil] at hmark
        exact free (hmark ▸ List.infix_refl _)
    | cons b bs =>
        obtain rfl : m = b := (List.cons.inj hrest).1
        have hms : ms = t ++ m :: bs := (List.cons.inj hmark).2
        exact hm (hms ▸ List.mem_append_right t (.head bs))

theorem cutAt_append {m : Char} {ms t : List Char} (hm : m ∉ ms) (free : ¬(m :: ms) <:+: t)
    (rest : List Char) : cutAt (m :: ms) (t ++ (m :: ms) ++ rest) = some (t, rest) := by
  induction t with
  | nil =>
      have found : (m :: ms).isPrefixOf? (m :: (ms ++ rest)) = some rest :=
        List.isPrefixOf?_eq_some_iff_append_eq.mpr rfl
      rw [List.nil_append, List.cons_append, cutAt, found]
  | cons c t ih =>
      have absent : (m :: ms).isPrefixOf? (c :: (t ++ (m :: ms) ++ rest)) = none := by
        rw [Option.eq_none_iff_forall_ne_some]
        intro behind h
        exact not_prefix_append hm free ⟨behind, List.isPrefixOf?_eq_some_iff_append_eq.mp h⟩
      have shorter : ¬(m :: ms) <:+: t := fun h => free (List.infix_cons h)
      rw [List.cons_append, List.cons_append, cutAt, absent, ih shorter]
      rfl

theorem not_infix_of_cutAt {m : Char} {ms s before behind : List Char}
    (h : cutAt (m :: ms) s = some (before, behind)) : ¬(m :: ms) <:+: before := by
  induction s generalizing before with
  | nil => simp [cutAt] at h
  | cons c s ih =>
      rw [cutAt] at h
      split at h
      · cases h
        simp
      · next absent =>
          obtain ⟨⟨t, r⟩, hcut, hpair⟩ := Option.map_eq_some_iff.mp h
          cases hpair
          rw [List.infix_cons_iff]
          rintro (hstart | hinfix)
          · have longer : (m :: ms) <+: c :: s := by
              refine hstart.trans ?_
              rw [eq_append_of_cutAt hcut, List.append_assoc]
              exact List.prefix_append (c :: t) _
            obtain ⟨rest, hrest⟩ := longer
            rw [List.isPrefixOf?_eq_some_iff_append_eq.mpr hrest] at absent
            cases absent
          · exact ih hcut hinfix

theorem cutAt_entryClose_eq_some_iff {s before behind : List Char} :
    cutAt entryClose s = some (before, behind) ↔
      s = before ++ entryClose ++ behind ∧ ¬entryClose <:+: before := by
  constructor
  · intro h
    exact ⟨eq_append_of_cutAt h, not_infix_of_cutAt h⟩
  · rintro ⟨rfl, free⟩
    exact cutAt_append (by decide) free behind

theorem stops_flatMap_text (es : List Entry) : Stops isBlank (es.flatMap Entry.text) := by
  cases es with
  | nil => exact stops_nil
  | cons e es => exact stops_cons (by decide)

theorem entries_nil : entries [] = some [] := by
  rw [entries]
  rfl

theorem entries_of_ne_nil {s : List Char} (hs : s ≠ []) :
    entries s = (entryOpen.isPrefixOf? s).bind fun body =>
      (cutAt entryClose body).bind fun (token, rest) =>
        (entries (trimStart rest)).map (token :: ·) := by
  rw [entries, if_neg (by simpa using hs)]
  split
  · next absent => rw [absent]; rfl
  · next body found =>
      rw [found, Option.bind_some]
      split
      · next unclosed => rw [unclosed]; rfl
      · next closed => rw [closed]; rfl

theorem entries_eq_some_nil_iff {s : List Char} : entries s = some [] ↔ s = [] := by
  by_cases hs : s = []
  · simp [hs, entries_nil]
  · simp [hs, entries_of_ne_nil hs, Option.bind_eq_some_iff, Option.map_eq_some_iff]

theorem entries_eq_some_cons_iff {s token : List Char} {ts : List (List Char)} :
    entries s = some (token :: ts) ↔
      ∃ rest, s = entryOpen ++ token ++ entryClose ++ rest ∧ ¬entryClose <:+: token ∧
        entries (trimStart rest) = some ts := by
  by_cases hs : s = []
  · simp [hs, entries_nil, entryOpen]
  · simp only [entries_of_ne_nil hs, Option.bind_eq_some_iff, Option.map_eq_some_iff, Prod.exists,
      List.isPrefixOf?_eq_some_iff_append_eq, cutAt_entryClose_eq_some_iff, List.cons.injEq]
    constructor
    · rintro ⟨_, rfl, _, rest, ⟨rfl, free⟩, _, hts, rfl, rfl⟩
      exact ⟨rest, by simp only [List.append_assoc], free, hts⟩
    · rintro ⟨rest, rfl, free, hts⟩
      exact ⟨token ++ entryClose ++ rest, by simp only [List.append_assoc], token, rest,
        ⟨rfl, free⟩, ts, hts, rfl, rfl⟩

theorem entries_eq_some_iff {s : List Char} {ts : List (List Char)} : entries s = some ts ↔
    ∃ es : List Entry, s = es.flatMap Entry.text ∧ es.map Entry.token = ts := by
  induction ts generalizing s with
  | nil =>
      rw [entries_eq_some_nil_iff]
      constructor
      · rintro rfl
        exact ⟨[], rfl, rfl⟩
      · rintro ⟨es, rfl, hes⟩
        rw [List.map_eq_nil_iff.mp hes]
        rfl
  | cons token ts ih =>
      rw [entries_eq_some_cons_iff]
      constructor
      · rintro ⟨rest, rfl, free, hrest⟩
        obtain ⟨es, hes, rfl⟩ := ih.mp hrest
        let e : Entry := ⟨token, rest.takeWhile isBlank, free, fun _ => List.mem_takeWhile_imp⟩
        have hblanks : e.blanks ++ es.flatMap Entry.text = rest := by
          rw [← hes]
          exact List.takeWhile_append_dropWhile
        refine ⟨e :: es, ?_, rfl⟩
        rw [List.flatMap_cons, Entry.text, List.append_assoc _ e.blanks, hblanks]
      · rintro ⟨es, rfl, hes⟩
        obtain ⟨e, es, rfl, rfl, hts⟩ := List.map_eq_cons_iff.mp hes
        refine ⟨e.blanks ++ es.flatMap Entry.text, ?_, e.free, ?_⟩
        · rw [List.flatMap_cons, Entry.text, List.append_assoc]
        · rw [trimStart, dropWhile_append_of_stops e.areBlank (stops_flatMap_text es), ih]
          exact ⟨es, rfl, hts⟩

theorem tokens_eq_some_iff {s : List Char} {ts : List (List Char)} :
    tokens s = some ts ↔ ∃ b : Block, trim s = b.text ∧ b.tokens = ts := by
  have hbind : tokens s = (blockOpen.isPrefixOf? (trim s)).bind fun body =>
    (blockClose.isSuffixOf? body).bind fun inner => entries (trimStart inner) := rfl
  simp only [hbind, Option.bind_eq_some_iff, List.isPrefixOf?_eq_some_iff_append_eq,
    List.isSuffixOf?_eq_some_iff_append_eq, entries_eq_some_iff]
  constructor
  · rintro ⟨_, hbody, inner, rfl, es, hes, rfl⟩
    refine ⟨⟨inner.takeWhile isBlank, es, fun _ => List.mem_takeWhile_imp⟩, ?_, rfl⟩
    have hinner : inner.takeWhile isBlank ++ es.flatMap Entry.text = inner := by
      rw [← hes]
      exact List.takeWhile_append_dropWhile
    rw [← hbody, Block.text, List.append_assoc blockOpen, hinner, List.append_assoc]
  · rintro ⟨b, hb, rfl⟩
    have hbody : blockOpen ++ (b.blanks ++ b.entries.flatMap Entry.text ++ blockClose) =
        trim s := by
      rw [hb]
      simp only [Block.text, List.append_assoc]
    exact ⟨_, hbody, _, rfl, b.entries,
      dropWhile_append_of_stops b.areBlank (stops_flatMap_text b.entries), rfl⟩

theorem trim_text (b : Block) {before after : List Char} (hbefore : ∀ c ∈ before, isBlank c = true)
    (hafter : ∀ c ∈ after, isBlank c = true) : trim (before ++ b.text ++ after) = b.text := by
  have hstart : Stops isBlank b.text := stops_cons (by decide)
  have hend : Stops isBlank b.text.reverse := by
    rw [Block.text, List.reverse_append]
    exact stops_cons (by decide)
  rw [List.append_assoc]
  exact trim_append_append hbefore (List.cons_ne_nil _ _) hstart hend hafter

theorem Entry.eq_of_append_eq {e f : Entry} {s r : List Char} (hs : Stops isBlank s)
    (hr : Stops isBlank r) (h : e.text ++ s = f.text ++ r) : e = f ∧ s = r := by
  obtain ⟨token, blanks, free, areBlank⟩ := e
  obtain ⟨token', blanks', free', areBlank'⟩ := f
  simp only [text, List.append_assoc, List.append_cancel_left_eq] at h
  have hcut : cutAt entryClose (token ++ (entryClose ++ (blanks ++ s))) =
      some (token, blanks ++ s) :=
    cutAt_entryClose_eq_some_iff.mpr ⟨(List.append_assoc _ _ _).symm, free⟩
  have hcut' : cutAt entryClose (token' ++ (entryClose ++ (blanks' ++ r))) =
      some (token', blanks' ++ r) :=
    cutAt_entryClose_eq_some_iff.mpr ⟨(List.append_assoc _ _ _).symm, free'⟩
  rw [h, hcut', Option.some.injEq, Prod.mk.injEq] at hcut
  obtain ⟨rfl, hbehind⟩ := hcut
  obtain ⟨rfl, rfl⟩ := append_inj_of_stops areBlank' hr areBlank hs hbehind
  exact ⟨rfl, rfl⟩

theorem eq_of_flatMap_text_eq {es fs : List Entry}
    (h : es.flatMap Entry.text = fs.flatMap Entry.text) : es = fs := by
  induction es generalizing fs with
  | nil =>
      cases fs with
      | nil => rfl
      | cons f fs => cases h
  | cons e es ih =>
      cases fs with
      | nil => cases h
      | cons f fs =>
          rw [List.flatMap_cons, List.flatMap_cons] at h
          obtain ⟨rfl, hrest⟩ := Entry.eq_of_append_eq (stops_flatMap_text es)
            (stops_flatMap_text fs) h
          rw [ih hrest]

theorem Block.text_injective : Function.Injective Block.text := by
  rintro ⟨blanks, es, areBlank⟩ ⟨blanks', es', areBlank'⟩ h
  simp only [text, List.append_assoc, List.append_cancel_left_eq] at h
  rw [← List.append_assoc, ← List.append_assoc, List.append_cancel_right_eq] at h
  obtain ⟨rfl, hentries⟩ := append_inj_of_stops areBlank (stops_flatMap_text es) areBlank'
    (stops_flatMap_text es') h
  rw [eq_of_flatMap_text_eq hentries]

/-- Splitting a text gives tokens exactly if the text, without the blanks around it, is a block
of these tokens; it is so in one way only, down to the blanks. So a block written from any tokens,
with any blanks around it and between its paragraphs, is split into them again. -/
theorem tokens_are_those_of_the_block (s : List Char) (ts : List (List Char)) :
    (tokens s = some ts ↔ ∃ b : Block, trim s = b.text ∧ b.tokens = ts) ∧
    (∀ b c : Block, b.text = c.text → b = c) ∧
    ∀ (b : Block) (before after : List Char), (∀ c ∈ before, isBlank c = true) →
      (∀ c ∈ after, isBlank c = true) → tokens (before ++ b.text ++ after) = some b.tokens := by
  refine ⟨tokens_eq_some_iff, Block.text_injective, ?_⟩
  intro b before after hbefore hafter
  exact tokens_eq_some_iff.mpr ⟨b, trim_text b hbefore hafter, rfl⟩

end GraphLens.Markup
