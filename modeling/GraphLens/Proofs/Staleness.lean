import GraphLens.Proofs.Session
import Mathlib.Data.List.Induction

namespace GraphLens

open Pipeline

namespace RequestSequencer

def uniform (n m : Nat) : RequestSequencer := ⟨n, ⟨⟨n, m⟩, ⟨n, m⟩, ⟨n, m⟩, ⟨n, m⟩⟩⟩

theorem issue_uniform (n m : Nat) :
    (uniform n m).issue Target.all = (⟨n + 1⟩, uniform (n + 1) m) := rfl

theorem isCurrent_uniform (n m : Nat) (ticket : Ticket) (target : Target) :
    (uniform n m).isCurrent ticket target = decide (n = ticket.seq ∧ m < ticket.seq) := by
  rw [Bool.decide_and]
  cases target <;> rfl

theorem settle_uniform_of_current {n m : Nat} (h : m < n) :
    (uniform n m).settle ⟨n⟩ Target.all = (true, uniform n n) := by
  have current : Target.all.all ((uniform n m).isCurrent ⟨n⟩) = true :=
    List.all_eq_true.mpr fun target _ => by rw [isCurrent_uniform]; exact decide_eq_true ⟨rfl, h⟩
  rw [settle, if_pos current]
  rfl

theorem settle_uniform_of_stale {n m : Nat} {ticket : Ticket}
    (h : ¬(n = ticket.seq ∧ m < ticket.seq)) :
    (uniform n m).settle ticket Target.all = (false, uniform n m) := by
  have stale : ¬Target.all.all ((uniform n m).isCurrent ticket) = true := by
    simp only [Target.all, List.all_cons, isCurrent_uniform, h, decide_false, Bool.false_and,
      Bool.false_eq_true, not_false_eq_true]
  rw [settle, if_neg stale]

end RequestSequencer

namespace Session

open RequestSequencer

variable {ε σ α ι : Type} [Scalar α] [DrawingSurface σ α ι] [GraphRenderer ε ι] [Compiler ε]

/-- The tickets are in increasing order, and the last of them, if there is one, is `m`. -/
structure EndsAt (ts : List Ticket) (m : Nat) : Prop where
  increasing : ts.Pairwise fun t u => t.seq < u.seq
  le : ∀ t ∈ ts, t.seq ≤ m
  last : 0 < m → ⟨m⟩ ∈ ts

theorem EndsAt.concat {ts : List Ticket} {m n : Nat} (h : EndsAt ts m) (hlt : m < n) :
    EndsAt (ts ++ [⟨n⟩]) n where
  increasing := by
    refine List.pairwise_append.mpr ⟨h.increasing, List.pairwise_singleton _ _, ?_⟩
    intro t ht u hu
    rw [List.mem_singleton.mp hu]
    exact Nat.lt_of_le_of_lt (h.le t ht) hlt
  le := by
    intro t ht
    rw [List.mem_append, List.mem_singleton] at ht
    rcases ht with ht | rfl
    · exact Nat.le_trans (h.le t ht) (Nat.le_of_lt hlt)
    · exact Nat.le_refl n
  last _ := List.mem_append_right ts (List.mem_singleton_self _)

/-- What the sequencer knows after a log: `n` is the newest ticket, and `m` the newest one whose
outcome has counted. -/
structure Tallied (start : Session ε σ α ι) (log : List Request) (n m : Nat) : Prop where
  sequencer : (start.play log).pipeline.sequencer = uniform n m
  settled_le : m ≤ n
  newest : 0 < n → (start.along issues log).getLast? = some ⟨n⟩
  granted : ∀ t ∈ start.along grants log, 0 < t.seq ∧ t.seq ≤ n
  completed : ∀ t answer, .complete t answer ∈ log → t.seq ≤ n ∧ (t.seq = n → m = n)
  pending : ⟨n⟩ ∈ start.along grants log → (∀ answer, .complete ⟨n⟩ answer ∉ log) → m < n
  reached : EndsAt (start.along reaches log) m

omit [Scalar α] [DrawingSurface σ α ι] [GraphRenderer ε ι] [Compiler ε] in
theorem ticket_run_eq {s : Session ε σ α ι} {n m : Nat}
    (h : s.pipeline.sequencer = uniform n m) (source : String) :
    s.ticket (.run source) = ⟨n + 1⟩ := by
  rw [Session.ticket, h, issue_uniform]

theorem Tallied.begin {start : Session ε σ α ι} {log : List Request} {n m : Nat}
    (h : Tallied start log n m) : Tallied start (log ++ [.begin]) (n + 1) m := by
  have issued : (start.play log).pipeline.begin.1 = ⟨n + 1⟩ := ticket_run_eq h.sequencer ""
  have hle := h.settled_le
  constructor
  case sequencer =>
      rw [play_concat]
      change ((start.play log).pipeline.sequencer.issue Target.all).2 = _
      rw [h.sequencer, issue_uniform]
  case settled_le => omega
  case newest => simp [along_concat, issues, issued]
  case granted =>
      intro t ht
      rw [along_concat, grants, issued, List.mem_append, List.mem_singleton] at ht
      rcases ht with ht | rfl
      · have := h.granted t ht
        omega
      · simp
  case completed =>
      intro t answer ht
      have ht : .complete t answer ∈ log := by simpa using ht
      have := (h.completed t answer ht).1
      omega
  case pending => omega
  case reached =>
      simpa [along_concat, reaches, activities, calls, Pipeline.begin] using h.reached

theorem Tallied.run {start : Session ε σ α ι} {log : List Request} {n m : Nat}
    (h : Tallied start log n m) (source : String) :
    Tallied start (log ++ [.run source]) (n + 1) (n + 1) := by
  have issued : (start.play log).ticket (.run source) = ⟨n + 1⟩ :=
    ticket_run_eq h.sequencer source
  have hle := h.settled_le
  constructor
  case sequencer =>
      rw [play_concat, sequencer_after_run, h.sequencer, issue_uniform,
        settle_uniform_of_current (by omega)]
  case settled_le => omega
  case newest => simp [along_concat, issues, issued]
  case granted =>
      intro t ht
      have ht : t ∈ start.along grants log := by simpa [along_concat, grants] using ht
      have := h.granted t ht
      omega
  case completed =>
      intro t answer ht
      have ht : .complete t answer ∈ log := by simpa using ht
      have := (h.completed t answer ht).1
      omega
  case pending =>
      intro ht
      have ht : ⟨n + 1⟩ ∈ start.along grants log := by simpa [along_concat, grants] using ht
      exact absurd (h.granted _ ht).2 (Nat.not_succ_le_self n)
  case reached =>
      rw [along_concat, reaches_run, issued]
      exact h.reached.concat (Nat.lt_succ_of_le hle)

theorem Tallied.stale {start : Session ε σ α ι} {log : List Request} {n m : Nat}
    (h : Tallied start log n m) {ticket : Ticket} (answer : Except CompilerFailure String)
    (hgranted : ticket ∈ start.along grants log)
    (hstale : ¬(n = ticket.seq ∧ m < ticket.seq)) :
    Tallied start (log ++ [.complete ticket answer]) n m := by
  have settled : ((start.play log).pipeline.sequencer.settle ticket Target.all).1 = false := by
    rw [h.sequencer, settle_uniform_of_stale hstale]
  have hle := h.settled_le
  constructor
  case sequencer => rw [play_concat, after_complete_of_stale _ _ _ settled, h.sequencer]
  case settled_le => exact hle
  case newest => simpa [along_concat, issues] using h.newest
  case granted => simpa [along_concat, grants] using h.granted
  case completed =>
      intro t other ht
      rw [List.mem_append, List.mem_singleton, Request.complete.injEq] at ht
      rcases ht with ht | ⟨rfl, rfl⟩
      · exact h.completed t other ht
      · have := h.granted t hgranted
        omega
  case pending =>
      intro ht hfresh
      rw [along_concat, grants, List.append_nil] at ht
      exact h.pending ht fun other hc => hfresh other (List.mem_append_left _ hc)
  case reached =>
      rw [along_concat, reaches_complete_of_stale _ _ _ settled, List.append_nil]
      exact h.reached

theorem Tallied.current {start : Session ε σ α ι} {log : List Request} {n m : Nat}
    (h : Tallied start log n m) (answer : Except CompilerFailure String) (hcurrent : m < n) :
    Tallied start (log ++ [.complete ⟨n⟩ answer]) n n := by
  have settled : ((start.play log).pipeline.sequencer.settle ⟨n⟩ Target.all).1 = true := by
    rw [h.sequencer, settle_uniform_of_current hcurrent]
  constructor
  case sequencer =>
      rw [play_concat, sequencer_after_complete_of_current _ _ _ settled, h.sequencer,
        settle_uniform_of_current hcurrent]
  case settled_le => exact Nat.le_refl n
  case newest => simpa [along_concat, issues] using h.newest
  case granted => simpa [along_concat, grants] using h.granted
  case completed =>
      intro t other ht
      rw [List.mem_append, List.mem_singleton, Request.complete.injEq] at ht
      rcases ht with ht | ⟨rfl, rfl⟩
      · exact ⟨(h.completed t other ht).1, fun _ => rfl⟩
      · exact ⟨Nat.le_refl n, fun _ => rfl⟩
  case pending =>
      intro _ hfresh
      exact absurd (List.mem_append_right log (List.mem_singleton_self _)) (hfresh answer)
  case reached =>
      rw [along_concat, reaches_complete_of_current _ _ _ settled]
      exact h.reached.concat hcurrent

theorem Tallied.newest_iff {start : Session ε σ α ι} {log : List Request} {n m : Nat}
    (h : Tallied start log n m) {ticket : Ticket} (hgranted : ticket ∈ start.along grants log) :
    (start.along issues log).getLast? = some ticket ↔ n = ticket.seq := by
  obtain ⟨hpos, hle⟩ := h.granted ticket hgranted
  rw [h.newest (by omega), Option.some.injEq]
  constructor
  · rintro rfl
    rfl
  · rintro rfl
    rfl

theorem Tallied.current_iff {start : Session ε σ α ι} {log : List Request} {n m : Nat}
    (h : Tallied start log n m) {ticket : Ticket} (hgranted : ticket ∈ start.along grants log) :
    (n = ticket.seq ∧ m < ticket.seq) ↔
      (start.along issues log).getLast? = some ticket ∧
        ∀ earlier, .complete ticket earlier ∉ log := by
  rw [h.newest_iff hgranted]
  obtain ⟨seq⟩ := ticket
  constructor
  · rintro ⟨rfl, hm⟩
    refine ⟨rfl, fun earlier hc => ?_⟩
    exact Nat.ne_of_lt hm ((h.completed _ earlier hc).2 rfl)
  · rintro ⟨rfl, hfresh⟩
    exact ⟨rfl, h.pending hgranted hfresh⟩

end Session

end GraphLens
