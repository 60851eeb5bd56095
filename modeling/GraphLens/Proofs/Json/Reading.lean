import GraphLens.Json.Reader
import GraphLens.Proofs.Spans

namespace GraphLens.Json.Reader

variable {σ β γ : Type} {s t u : List Char}

/-- The reader takes `b` off the front of `s` and leaves `t`. -/
def Takes (r : Reader β) (s t : List Char) (b : β) : Prop := ∀ p, ∃ q, r ⟨s, p⟩ = .ok b ⟨t, q⟩

def Fails (r : Reader β) (s : List Char) : Prop := ∀ p, ∃ e c, r ⟨s, p⟩ = .error e c

/-- The reader takes the answer off the front of `s` and leaves `t`, or fails if there is none. -/
def Answers (r : Reader β) (s t : List Char) : Option β → Prop
  | some b => r.Takes s t b
  | none => r.Fails s

theorem takes_pure (b : β) : (pure b : Reader β).Takes s s b := fun p => ⟨p, rfl⟩

theorem Takes.bind {r : Reader β} {f : β → Reader γ} {b : β} {c : γ} (hr : r.Takes s t b)
    (hf : (f b).Takes t u c) : (r >>= f).Takes s u c := by
  intro p
  obtain ⟨q, hq⟩ := hr p
  obtain ⟨q', hq'⟩ := hf q
  exact ⟨q', by simp [Bind.bind, EStateM.bind, hq, hq']⟩

theorem Takes.bind_fails {r : Reader β} {f : β → Reader γ} {b : β} (hr : r.Takes s t b)
    (hf : (f b).Fails t) : (r >>= f).Fails s := by
  intro p
  obtain ⟨q, hq⟩ := hr p
  obtain ⟨e, c, hc⟩ := hf q
  exact ⟨e, c, by simp [Bind.bind, EStateM.bind, hq, hc]⟩

theorem Fails.bind {r : Reader β} (hr : r.Fails s) (f : β → Reader γ) : (r >>= f).Fails s := by
  intro p
  obtain ⟨e, c, hc⟩ := hr p
  exact ⟨e, c, by simp [Bind.bind, EStateM.bind, hc]⟩

theorem bind_fails_of_forall {r : Reader β} {f : β → Reader γ} (h : ∀ b t, (f b).Fails t) :
    (r >>= f).Fails s := by
  intro p
  cases hr : r ⟨s, p⟩ with
  | ok b c =>
      obtain ⟨e, c', hc⟩ := h b c.rest c.position
      exact ⟨e, c', by simp only [Bind.bind, EStateM.bind, hr, hc]⟩
  | error e c => exact ⟨e, c, by simp only [Bind.bind, EStateM.bind, hr]⟩

theorem Takes.answers {r : Reader β} {f : β → Reader γ} {b : β} {o : Option γ} (hr : r.Takes s t b)
    (hf : (f b).Answers t u o) : (r >>= f).Answers s u o := by
  cases o with
  | some c => exact hr.bind hf
  | none => exact hr.bind_fails hf

theorem Answers.bind {r : Reader β} {f : β → Reader γ} {o : Option β} {g : β → Option γ}
    (hr : r.Answers s t o) (hf : ∀ b, (f b).Answers t u (g b)) :
    (r >>= f).Answers s u (o.bind g) := by
  cases o with
  | some b => exact Takes.answers hr (hf b)
  | none => exact Fails.bind hr f

theorem Answers.map {r : Reader β} {o : Option β} (hr : r.Answers s t o) (g : β → γ) :
    (do return g (← r) : Reader γ).Answers s t (o.map g) := by
  rw [Option.map_eq_bind]
  exact hr.bind fun b => takes_pure (g b)

theorem fails_reject (cause : Cause) : (reject cause : Reader β).Fails s :=
  fun p => ⟨⟨cause, none⟩, ⟨s, p⟩, rfl⟩

theorem fails_failAhead (cause : Cause) : (failAhead cause : Reader β).Fails s :=
  fun p => ⟨⟨cause, some (Cursor.ahead ⟨s, p⟩)⟩, ⟨s, p⟩, rfl⟩

theorem Answers.located {r : Reader β} {o : Option β} (hr : r.Answers s t o) :
    (located r).Answers s t o := by
  cases o with
  | some b =>
      intro p
      obtain ⟨q, hq⟩ := hr p
      exact ⟨q, by rw [Reader.located, hq]⟩
  | none =>
      intro p
      obtain ⟨e, c, hc⟩ := hr p
      exact ⟨e.placedAt c.position, c, by rw [Reader.located, hc]⟩

theorem Fails.within {body : Reader β} (hbody : body.Fails s) (close : Reader Unit) :
    (Reader.within body close).Fails s := by
  intro p
  obtain ⟨e, c, hc⟩ := hbody p
  simp only [Reader.within, hc]
  cases close c with
  | ok _ c' => exact ⟨e, c', rfl⟩
  | error _ c' => exact ⟨e, c', rfl⟩

theorem Answers.within {body : Reader β} {close : Reader Unit} {o : Option β}
    (hbody : body.Answers s t o) (hclose : close.Takes t u ()) :
    (Reader.within body close).Answers s u o := by
  cases o with
  | some b =>
      intro p
      obtain ⟨q, hq⟩ := hbody p
      obtain ⟨q', hq'⟩ := hclose q
      exact ⟨q', by simp only [Reader.within, hq, hq']⟩
  | none => exact Fails.within hbody close

theorem Answers.within_fails {body : Reader β} {close : Reader Unit} {o : Option β}
    (hbody : body.Answers s t o) (hclose : close.Fails t) :
    (Reader.within body close).Fails s := by
  cases o with
  | some b =>
      intro p
      obtain ⟨q, hq⟩ := hbody p
      obtain ⟨e, c, hc⟩ := hclose q
      exact ⟨e, c, by simp only [Reader.within, hq, hc]⟩
  | none => exact Fails.within hbody close

theorem Takes.within_bind {r : Reader β} {f : β → Reader γ} {close : Reader Unit} {b : β}
    {o : Option γ} (hr : r.Takes s t b) (hf : (Reader.within (f b) close).Answers t u o) :
    (Reader.within (r >>= f) close).Answers s u o := by
  have run (p : Position) : ∃ q, Reader.within (r >>= f) close ⟨s, p⟩ =
      Reader.within (f b) close ⟨t, q⟩ := by
    obtain ⟨q, hq⟩ := hr p
    exact ⟨q, by simp only [Reader.within, Bind.bind, EStateM.bind, hq]⟩
  cases o with
  | some c =>
      intro p
      obtain ⟨q, hq⟩ := run p
      obtain ⟨q', hq'⟩ := hf q
      exact ⟨q', hq.trans hq'⟩
  | none =>
      intro p
      obtain ⟨q, hq⟩ := run p
      obtain ⟨e, c, hc⟩ := hf q
      exact ⟨e, c, hq.trans hc⟩

theorem Answers.within_bind {r : Reader β} {f : β → Reader γ} {close : Reader Unit}
    {o : Option β} {g : β → Option γ} (hr : r.Answers s t o)
    (hf : ∀ b, (Reader.within (f b) close).Answers t u (g b)) :
    (Reader.within (r >>= f) close).Answers s u (o.bind g) := by
  cases o with
  | none => exact Fails.within (Fails.bind hr f) close
  | some b => exact Takes.within_bind hr (hf b)

theorem takes_eat (c : Char) (s : List Char) : eat.Takes (c :: s) s () :=
  fun p => ⟨p.advance c, rfl⟩

theorem takes_peek (s : List Char) : peek.Takes s s s.head? := fun p => ⟨p, rfl⟩

theorem takes_takeWhile {p : Char → Bool} (hs : ∀ c ∈ s, p c = true) (ht : Stops p t) :
    (takeWhile p).Takes (s ++ t) t s := by
  intro q
  have run : takeWhile p ⟨s ++ t, q⟩ =
      .ok ((s ++ t).takeWhile p) (Cursor.dropWhile p ⟨s ++ t, q⟩) := rfl
  refine ⟨((s ++ t).takeWhile p).foldl .advance q, run.trans ?_⟩
  simp only [Cursor.dropWhile, takeWhile_append_of_stops hs ht, dropWhile_append_of_stops hs ht]

theorem takes_word (l s : List Char) : (word l).Takes (l ++ s) s () := by
  induction l with
  | nil => exact takes_pure ()
  | cons c l ih =>
      refine (takes_peek _).bind ?_
      simp only [List.cons_append, List.head?_cons, if_true]
      exact (takes_eat c _).bind ih

def Blanks (w : List Char) : Prop := ∀ c ∈ w, isSpace c = true

theorem blanks_nil : Blanks [] := by simp [Blanks]

theorem takes_peekPastSpace {w : List Char} (hw : Blanks w) (hs : Stops isSpace s) :
    peekPastSpace.Takes (w ++ s) s s.head? :=
  (takes_takeWhile hw hs).bind (takes_peek s)

theorem exists_takes_peekPastSpace (s : List Char) :
    ∃ t, peekPastSpace.Takes s t t.head? := by
  refine ⟨s.dropWhile isSpace, ?_⟩
  have hblanks : Blanks (s.takeWhile isSpace) := fun c hc => List.mem_takeWhile_imp hc
  have hpeek := takes_peekPastSpace hblanks (stops_dropWhile isSpace s)
  rwa [List.takeWhile_append_dropWhile] at hpeek

/-- How a loop goes on from the state `a` before the text `s`: it ends with the state of the answer
before `t`, or fails if there is none. Each round takes something. -/
inductive Loops (step : σ → Reader (Option σ)) : σ → List Char → List Char → Option σ → Prop
  | stop {a : σ} {s t : List Char} (h : (step a).Takes s t none) : Loops step a s t (some a)
  | fail {a : σ} {s t : List Char} (h : (step a).Fails s) : Loops step a s t none
  | next {a b : σ} {s t u : List Char} {o : Option σ} (h : (step a).Takes s t (some b))
      (shorter : t.length < s.length) (rest : Loops step b t u o) : Loops step a s u o

theorem Loops.answers_iterateFor {step : σ → Reader (Option σ)} {a : σ} {o : Option σ}
    (h : Loops step a s t o) {fuel : Nat} (hfuel : s.length < fuel) :
    (iterateFor step fuel a).Answers s t o := by
  induction h generalizing fuel with
  | stop h =>
      obtain ⟨fuel, rfl⟩ := Nat.exists_eq_succ_of_ne_zero (Nat.ne_zero_of_lt hfuel)
      exact h.bind (takes_pure _)
  | fail h =>
      obtain ⟨fuel, rfl⟩ := Nat.exists_eq_succ_of_ne_zero (Nat.ne_zero_of_lt hfuel)
      exact h.bind _
  | next h shorter rest ih =>
      obtain ⟨fuel, rfl⟩ := Nat.exists_eq_succ_of_ne_zero (Nat.ne_zero_of_lt hfuel)
      exact h.answers (ih (by omega))

theorem Loops.answers {step : σ → Reader (Option σ)} {a : σ} {o : Option σ}
    (h : Loops step a s t o) : (iterate step a).Answers s t o := by
  have run (p : Position) : iterate step a ⟨s, p⟩ = iterateFor step (s.length + 1) a ⟨s, p⟩ := rfl
  have hfor := h.answers_iterateFor (Nat.lt_succ_self s.length)
  cases o with
  | some b => exact fun p => (run p).symm ▸ hfor p
  | none => exact fun p => (run p).symm ▸ hfor p

theorem Loops.of_answers {step : σ → Reader (Option σ)} {a : σ} {o : Option β} {f : β → σ}
    {g : β → Option σ} (h : (step a).Answers s t (o.map fun b => some (f b)))
    (shorter : t.length < s.length) (rest : ∀ b, Loops step (f b) t u (g b)) :
    Loops step a s u (o.bind g) := by
  cases o with
  | none => exact .fail h
  | some b => exact .next h shorter (rest b)

theorem readAll_eq_ok_iff {r : Reader β} {raw : String} {w : List Char} {o : Option β} {b : β}
    (h : r.Answers raw.toList w o) (hw : Blanks w) : readAll r raw = .ok b ↔ o = some b := by
  have hend : atEnd.Takes w [] () := by
    have hpeek := takes_peekPastSpace hw stops_nil
    rw [List.append_nil] at hpeek
    exact hpeek.bind (takes_pure ())
  have hall : (do let b ← r; atEnd; return b : Reader β).Answers raw.toList [] (o.bind some) :=
    h.bind fun b => hend.bind (takes_pure b)
  cases o with
  | some a =>
      obtain ⟨q, hq⟩ := hall .start
      simp only [readAll, Cursor.ofString, hq, Except.ok.injEq, Option.some.injEq]
  | none =>
      obtain ⟨e, c, hc⟩ := hall .start
      simp only [readAll, Cursor.ofString, hc, reduceCtorEq]

end GraphLens.Json.Reader
