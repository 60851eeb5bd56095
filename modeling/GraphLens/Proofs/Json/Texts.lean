import GraphLens.Proofs.Json.Grammar
import Mathlib.Tactic.IntervalCases

namespace GraphLens.Json.Reader

theorem hexValue?_of_hexDigit {k : Nat} {c : Char} (h : HexDigit k c) : hexValue? c = some k := by
  obtain ⟨hk, h⟩ := h
  interval_cases k <;> rcases h with rfl | rfl <;> rfl

theorem takes_hexFour {n : Nat} {ds : List Char} (h : CodeUnit n ds) (s : List Char) :
    hexFour.Takes (ds ++ s) s n := by
  cases h with
  | @digits i j k l a b c d ha hb hc hd =>
      have hbytes : ¬(String.ofList [a, b, c, d]).utf8ByteSize < 4 := by
        have := a.utf8Size_pos
        have := b.utf8Size_pos
        have := c.utf8Size_pos
        have := d.utf8Size_pos
        simp
        omega
      have hnumber : hexNumber? [a, b, c, d] = some (16 * (16 * (16 * i + j) + k) + l) := by
        simp [hexNumber?, hexValue?_of_hexDigit ha, hexValue?_of_hexDigit hb,
          hexValue?_of_hexDigit hc, hexValue?_of_hexDigit hd]
      intro p
      refine ⟨[a, b, c, d].foldl .advance p, ?_⟩
      have run (f : Cursor → Reader Nat) (c : Cursor) : (get >>= f) c = f c c := rfl
      have hfour : ([a, b, c, d] ++ s).take 4 = [a, b, c, d] := rfl
      refine (run _ _).trans ((congrFun (if_neg hbytes) _).trans ?_)
      simp only [hfour, hnumber]
      rfl

theorem toNat_lt (c : Char) : c.toNat < 0xd800 ∨ 0xdfff < c.toNat ∧ c.toNat < 0x110000 := c.valid

theorem takes_codeUnits_unit {c : Char} {ds : List Char} (h : CodeUnit c.toNat ds)
    (s : List Char) : codeUnits.Takes (ds ++ s) s c := by
  have hc := toNat_lt c
  have trailing : isTrailingSurrogate c.toNat = false := by
    simp [isTrailingSurrogate]
    omega
  have leading : isLeadingSurrogate c.toNat = false := by
    simp [isLeadingSurrogate]
    omega
  refine (takes_hexFour h s).bind ?_
  simp only [trailing, leading, Bool.false_eq_true, if_false]
  rw [Char.ofNat_toNat]
  exact takes_pure c

theorem takes_pairMark (mark : Char) (s : List Char) : (pairMark mark).Takes (mark :: s) s () := by
  refine (takes_peek _).bind ?_
  simp only [List.head?_cons, if_true]
  exact takes_eat mark s

theorem takes_codeUnits_pair {c : Char} {n : Nat} {ds es : List Char}
    (hc : c.toNat = 0x10000 + n) (leading : CodeUnit (0xd800 + n / 0x400) ds)
    (trailing : CodeUnit (0xdc00 + n % 0x400) es) (s : List Char) :
    codeUnits.Takes (ds ++ '\\' :: 'u' :: (es ++ s)) s c := by
  have hlt := toNat_lt c
  have notTrailing : isTrailingSurrogate (0xd800 + n / 0x400) = false := by
    simp [isTrailingSurrogate]
    omega
  have isLeading : isLeadingSurrogate (0xd800 + n / 0x400) = true := by
    simp [isLeadingSurrogate]
    omega
  have isTrailing : isTrailingSurrogate (0xdc00 + n % 0x400) = true := by
    simp [isTrailingSurrogate]
    omega
  have hchar : 0x10000 + (0xd800 + n / 0x400 - 0xd800) * 0x400 +
      (0xdc00 + n % 0x400 - 0xdc00) = c.toNat := by
    omega
  refine (takes_hexFour leading _).bind ?_
  simp only [notTrailing, isLeading, Bool.false_eq_true, if_false, if_true]
  refine (takes_pairMark '\\' _).bind ((takes_pairMark 'u' _).bind ?_)
  refine (takes_hexFour trailing s).bind ?_
  simp only [isTrailing, if_true]
  rw [hchar, Char.ofNat_toNat]
  exact takes_pure c

theorem takes_escapeWith_short (unicode : Reader Char) {c e : Char} (h : (e, c) ∈ shortEscapes)
    (s : List Char) : (escapeWith unicode).Takes (e :: s) s c := by
  have hshort : shortEscape? e = some c ∧ e ≠ 'u' := by
    simp only [shortEscapes, List.mem_cons, Prod.mk.injEq, List.not_mem_nil, or_false] at h
    rcases h with ⟨rfl, rfl⟩ | ⟨rfl, rfl⟩ | ⟨rfl, rfl⟩ | ⟨rfl, rfl⟩ | ⟨rfl, rfl⟩ | ⟨rfl, rfl⟩ |
      ⟨rfl, rfl⟩ | ⟨rfl, rfl⟩ <;> decide
  refine (takes_peek _).bind ?_
  simp only [List.head?_cons]
  split
  · next heq => cases heq
  · next heq => exact absurd (Option.some.inj heq) hshort.2
  · next heq =>
      cases heq
      rw [hshort.1]
      exact (takes_eat e s).bind (takes_pure c)

theorem takes_escapeWith_unicode {unicode : Reader Char} {s t : List Char} {c : Char}
    (h : unicode.Takes s t c) : (escapeWith unicode).Takes ('u' :: s) t c :=
  (takes_peek _).bind ((takes_eat 'u' s).bind h)

def textStep (unicode : Reader Char) (control : Reader Unit) (read : List Char) :
    Reader (Option (List Char)) := do
  match ← peek with
  | none => failHere .endInString
  | some '"' => return none
  | some '\\' =>
    eat
    return some ((← escapeWith unicode) :: read)
  | some c =>
    if c.toNat < 0x20 then control
    eat
    return some (c :: read)

theorem textWith_eq (unicode : Reader Char) (control : Reader Unit) :
    textWith unicode control = do
      let read ← iterate (textStep unicode control) []
      eat
      return read.reverse := rfl

section

variable {unicode : Reader Char} {control : Reader Unit} {read : List Char} {s t : List Char}

theorem takes_textStep_mark :
    (textStep unicode control read).Takes ('"' :: s) ('"' :: s) none :=
  (takes_peek _).bind (takes_pure none)

theorem takes_textStep_plain {c : Char} (printable : 0x20 ≤ c.toNat) (hmark : c ≠ '"')
    (hescape : c ≠ '\\') : (textStep unicode control read).Takes (c :: s) s (some (c :: read)) := by
  refine (takes_peek _).bind ?_
  simp only [List.head?_cons, if_neg (Nat.not_lt_of_le printable)]
  exact (takes_eat c s).bind (takes_pure _)

theorem takes_textStep_escape {c : Char} (h : (escapeWith unicode).Takes s t c) :
    (textStep unicode control read).Takes ('\\' :: s) t (some (c :: read)) :=
  (takes_peek _).bind ((takes_eat '\\' s).bind (h.bind (takes_pure _)))

theorem loops_textStep (control : Reader Unit) {cs : List Char} (h : Spells cs t)
    (read s : List Char) : Loops (textStep codeUnits control) read (t ++ '"' :: s)
      ('"' :: s) (some (cs.reverse ++ read)) := by
  induction h generalizing read with
  | nil => exact .stop takes_textStep_mark
  | @plain c cs t printable hmark hescape rest ih =>
      rw [List.reverse_cons, List.append_assoc]
      exact .next (takes_textStep_plain printable hmark hescape) (by simp) (ih (c :: read))
  | @short c e cs t h rest ih =>
      rw [List.reverse_cons, List.append_assoc, List.cons_append, List.cons_append]
      refine .next (takes_textStep_escape (takes_escapeWith_short _ h _)) ?_ (ih (c :: read))
      simp only [List.length_cons]
      omega
  | @unit c ds cs t h rest ih =>
      rw [List.reverse_cons, List.append_assoc, List.cons_append, List.cons_append,
        List.append_assoc]
      refine .next (takes_textStep_escape (takes_escapeWith_unicode (takes_codeUnits_unit h _)))
        ?_ (ih (c :: read))
      simp only [List.length_cons, List.length_append]
      omega
  | @pair c n ds es cs t hc leading trailing rest ih =>
      rw [List.reverse_cons, List.append_assoc]
      simp only [List.cons_append, List.append_assoc]
      refine .next (takes_textStep_escape (takes_escapeWith_unicode
        (takes_codeUnits_pair hc leading trailing _))) ?_ (ih (c :: read))
      simp only [List.length_cons, List.length_append]
      omega

theorem takes_text {name : String} (h : Spells name.toList t) (s : List Char) :
    text.Takes (t ++ '"' :: s) s name := by
  have hloop := (loops_textStep (failAhead .controlCharacter) h [] s).answers
  have hread : (textWith codeUnits (failAhead .controlCharacter)).Takes (t ++ '"' :: s) s
      name.toList := by
    rw [textWith_eq]
    refine Takes.bind hloop ((takes_eat '"' s).bind ?_)
    rw [List.append_nil, List.reverse_reverse]
    exact takes_pure _
  refine hread.bind ?_
  rw [String.ofList_toList]
  exact takes_pure name

theorem takes_key {name : String} (h : Spells name.toList t) (s : List Char) :
    key.Takes ('"' :: (t ++ '"' :: s)) s name := (takes_eat '"' _).bind (takes_text h s)

def skipUnit : Reader Char := do
  let _ ← hexFour
  return ' '

theorem loops_textStep_skip (control : Reader Unit) {cs : List Char} (h : Spells cs t)
    (read s : List Char) : ∃ read',
      Loops (textStep skipUnit control) read (t ++ '"' :: s) ('"' :: s) (some read') := by
  have passes {n : Nat} {ds : List Char} (h : CodeUnit n ds) (read t : List Char) :
      (textStep skipUnit control read).Takes ('\\' :: 'u' :: (ds ++ t)) t
        (some (' ' :: read)) :=
    takes_textStep_escape (takes_escapeWith_unicode ((takes_hexFour h t).bind (takes_pure ' ')))
  induction h generalizing read with
  | nil => exact ⟨read, .stop takes_textStep_mark⟩
  | @plain c cs t printable hmark hescape rest ih =>
      obtain ⟨read', hloop⟩ := ih (c :: read)
      exact ⟨read', .next (takes_textStep_plain printable hmark hescape) (by simp) hloop⟩
  | @short c e cs t h rest ih =>
      obtain ⟨read', hloop⟩ := ih (c :: read)
      rw [List.cons_append, List.cons_append]
      refine ⟨read', .next (takes_textStep_escape (takes_escapeWith_short _ h _)) ?_ hloop⟩
      simp only [List.length_cons]
      omega
  | @unit c ds cs t h rest ih =>
      obtain ⟨read', hloop⟩ := ih (' ' :: read)
      rw [List.cons_append, List.cons_append, List.append_assoc]
      refine ⟨read', .next (passes h read _) ?_ hloop⟩
      simp only [List.length_cons, List.length_append]
      omega
  | @pair c n ds es cs t hc leading trailing rest ih =>
      obtain ⟨read', hloop⟩ := ih (' ' :: ' ' :: read)
      simp only [List.cons_append, List.append_assoc]
      refine ⟨read', .next (passes leading read _) ?_ (.next (passes trailing _ _) ?_ hloop)⟩ <;>
        simp only [List.length_cons, List.length_append] <;> omega

theorem takes_skipText {cs : List Char} (h : Spells cs t) (s : List Char) :
    skipText.Takes (t ++ '"' :: s) s () := by
  obtain ⟨read, hloop⟩ := loops_textStep_skip (failHere .controlCharacter) h [] s
  have hskip : (textWith skipUnit (failHere .controlCharacter)).Takes
      (t ++ '"' :: s) s read.reverse := by
    rw [textWith_eq]
    exact Takes.bind hloop.answers ((takes_eat '"' s).bind (takes_pure _))
  exact hskip.bind (takes_pure ())

end

end GraphLens.Json.Reader
