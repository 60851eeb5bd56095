import GraphLens.Proofs.Json.Grammar

namespace GraphLens.Json

open Reader

def isNumeralChar (c : Char) : Bool := isDigit c || c = '.' || c = 'e' || c = 'E'

def EndsNumeral (s : List Char) : Prop := Stops isNumeralChar s

variable {s t : List Char}

theorem Digits.exists_cons {ds : List Char} (h : Digits ds) :
    ∃ d rest, ds = d :: rest ∧ isDigit d = true := by
  cases ds with
  | nil => exact absurd rfl h.ne_nil
  | cons d rest => exact ⟨d, rest, rfl, h.digit d (.head _)⟩

theorem NumeralText.exists_cons {n : Numeral} (h : NumeralText n t) :
    ∃ c rest, t = c :: rest ∧ (c = '-' ∨ isDigit c = true) := by
  obtain @⟨negative, whole, fraction, u, v, exponent, hwhole, -, -, -⟩ := h
  obtain ⟨d, rest, rfl, hd⟩ := hwhole.exists_cons
  cases negative with
  | true => exact ⟨'-', d :: rest ++ u ++ v, by simp, .inl rfl⟩
  | false => exact ⟨d, rest ++ u ++ v, by simp, .inr hd⟩

theorem ExponentText.stops {exponent : Option (Bool × List Char)} (h : ExponentText exponent t)
    (hs : EndsNumeral s) : Stops (fun c => isDigit c || c = '.') (t ++ s) := by
  cases h with
  | absent => exact hs.of_imp fun c hc => by simp_all [isNumeralChar]
  | present hmark hsign h => rcases hmark with rfl | rfl <;> exact stops_cons rfl

theorem FractionText.stops {ds : List Char} (h : FractionText ds t) (hs : Stops isDigit s) :
    Stops isDigit (t ++ s) := by
  cases h with
  | absent => exact hs
  | present h => exact stops_cons rfl

namespace Reader

theorem takes_someDigits (atEnd : Cause) {ds : List Char} (h : Digits ds) (hs : Stops isDigit s) :
    (someDigits atEnd).Takes (ds ++ s) s ds := by
  obtain ⟨d, rest, rfl, hd⟩ := h.exists_cons
  refine (takes_peek _).bind ?_
  simp only [List.cons_append, List.head?_cons, hd, if_true]
  exact takes_takeWhile h.digit hs

theorem takes_wholeDigits (atEnd : Cause) {ds : List Char} (h : Digits ds)
    (hzero : ds.head? = some '0' → ds = ['0']) (hs : Stops isDigit s) :
    (wholeDigits atEnd).Takes (ds ++ s) s ds := by
  obtain ⟨d, rest, rfl, hd⟩ := h.exists_cons
  refine (takes_peek _).bind ?_
  by_cases hd0 : d = '0'
  · subst hd0
    obtain rfl : rest = [] := (List.cons.inj (hzero rfl)).2
    have alone : s.head?.any isDigit = false := by
      cases s with
      | nil => rfl
      | cons c s => exact hs c rfl
    refine (takes_eat '0' s).bind ((takes_peek s).bind ?_)
    rw [if_neg (by simp [alone])]
    exact takes_pure _
  · rw [List.cons_append, List.head?_cons]
    split
    · next heq => cases heq
    · next heq => exact absurd (Option.some.inj heq) hd0
    · next heq =>
        cases heq
        rw [if_pos hd]
        exact takes_takeWhile h.digit hs

theorem takes_fractionDigits (atEnd : Cause) {ds : List Char} (h : FractionText ds t)
    (hs : Stops isDigit s) (hpoint : s.head? ≠ some '.') :
    (fractionDigits atEnd).Takes (t ++ s) s ds := by
  cases h with
  | absent =>
      refine (takes_peek _).bind ?_
      rw [List.nil_append]
      split
      · next heq => exact absurd heq hpoint
      · exact takes_pure _
  | present h => exact (takes_peek _).bind ((takes_eat '.' _).bind (takes_someDigits atEnd h hs))

theorem takes_exponentPart (atEnd : Cause) {exponent : Option (Bool × List Char)}
    (h : ExponentText exponent t) (hs : EndsNumeral s) :
    (exponentPart atEnd).Takes (t ++ s) s exponent := by
  have hdigits : Stops isDigit s := hs.of_imp fun c hc => by simp [isNumeralChar, hc]
  cases h with
  | absent =>
      refine (takes_peek _).bind ?_
      rw [List.nil_append]
      split
      · next heq => exact absurd (hs 'e' heq) (by decide)
      · next heq => exact absurd (hs 'E' heq) (by decide)
      · exact takes_pure _
  | @present mark negative sign ds hmark hsign h =>
      have hread (b : Bool) : (do return some (b, ← someDigits atEnd) :
          Reader (Option (Bool × List Char))).Takes (ds ++ s) s (some (b, ds)) :=
        (takes_someDigits atEnd h hdigits).bind (takes_pure _)
      simp only [List.mem_cons, Prod.mk.injEq, List.not_mem_nil, or_false] at hsign
      refine (takes_peek _).bind ?_
      rcases hmark with rfl | rfl
      -- The two marks are read alike; what follows them is a sign or the first digit.
      all_goals
        refine (takes_eat _ (sign ++ ds ++ s)).bind ((takes_peek _).bind ?_)
        rcases hsign with ⟨rfl, rfl⟩ | ⟨rfl, rfl⟩ | ⟨rfl, rfl⟩
        · obtain ⟨d, rest, rfl, hd⟩ := h.exists_cons
          split
          · next heq => cases heq; cases hd
          · next heq => cases heq; cases hd
          · exact (takes_pure false).bind (hread false)
        · exact (takes_eat '+' _).bind ((takes_pure false).bind (hread false))
        · exact (takes_eat '-' _).bind ((takes_pure true).bind (hread true))

theorem takes_numeral (atEnd : Cause) {n : Numeral} (h : NumeralText n t) (hs : EndsNumeral s) :
    (numeral atEnd).Takes (t ++ s) s n := by
  obtain @⟨negative, whole, fraction, u, v, exponent, hwhole, hzero, hfraction, hexponent⟩ := h
  have hexponentStops := hexponent.stops hs
  have hdigits : Stops isDigit (v ++ s) := hexponentStops.of_imp fun c hc => by simp [hc]
  have hpoint : (v ++ s).head? ≠ some '.' := fun heq => by simpa using hexponentStops '.' heq
  have hrest : (do return ⟨negative, ← wholeDigits atEnd, ← fractionDigits atEnd,
      ← exponentPart atEnd⟩ : Reader Numeral).Takes (whole ++ (u ++ (v ++ s))) s
      ⟨negative, whole, fraction, exponent⟩ :=
    (takes_wholeDigits atEnd hwhole hzero (hfraction.stops hdigits)).bind
      ((takes_fractionDigits atEnd hfraction hdigits hpoint).bind
        ((takes_exponentPart atEnd hexponent hs).bind (takes_pure _)))
  refine (takes_peek _).bind ?_
  cases negative with
  | true =>
      simp only [if_true, List.append_assoc]
      exact (takes_eat '-' _).bind hrest
  | false =>
      obtain ⟨d, rest, rfl, hd⟩ := hwhole.exists_cons
      have hsign : (some d == some '-') = false := by
        rw [beq_eq_false_iff_ne]
        rintro heq
        cases heq
        cases hd
      simp only [Bool.false_eq_true, if_false, List.nil_append, List.cons_append, List.head?_cons,
        hsign, List.append_assoc]
      exact hrest

theorem answers_number {n : Numeral} (h : NumeralText n t) (hs : EndsNumeral s) :
    number.Answers (t ++ s) s n.toNumber.toOption := by
  refine (takes_numeral .endInValue h hs).answers ?_
  cases n.toNumber with
  | ok x => exact takes_pure x
  | error unread => exact fun p => ⟨_, _, rfl⟩

theorem takes_skipNumber {n : Numeral} (h : NumeralText n t) (hs : EndsNumeral s) :
    skipNumber.Takes (t ++ s) s () := (takes_numeral .invalidNumber h hs).bind (takes_pure ())

end Reader

end GraphLens.Json
