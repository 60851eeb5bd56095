import GraphLens.Proofs.Runs
import GraphLens.Proofs.Staleness
import Mathlib.Data.List.Induction

namespace GraphLens

theorem Slots.get_update {f : Slot → Slot} (hf : ∀ slot, f (f slot) = f slot) (s : Slots)
    (targets : List Target) (g : Target) :
    (s.update targets f).get g = if g ∈ targets then f (s.get g) else s.get g := by
  induction targets generalizing s with
  | nil => rfl
  | cons t targets ih =>
      have hcons : s.update (t :: targets) f = (s.set t (f (s.get t))).update targets f := rfl
      rw [hcons, ih, get_set]
      by_cases ht : t = g
      · subst ht
        simp [hf]
      · simp [ht, Ne.symm ht]

theorem Session.EndsAt.getLast?_eq {ts : List Ticket} {m : Nat} (h : EndsAt ts m) (hpos : 0 < m) :
    ts.getLast? = some ⟨m⟩ := by
  have hmem := h.last hpos
  rcases List.eq_nil_or_concat ts with rfl | ⟨before, t, rfl⟩
  · cases hmem
  · obtain ⟨hincreasing, hle, -⟩ := h
    simp only [List.concat_eq_append, List.getLast?_concat, List.pairwise_append, List.mem_append,
      List.mem_singleton] at hmem hincreasing hle ⊢
    rcases hmem with hmem | rfl
    · have hlt : m < t.seq := hincreasing.2.2 _ hmem t rfl
      exact absurd hlt (Nat.not_lt_of_le (hle t (.inr rfl)))
    · rfl

namespace RequestSequencer

open Session (EndsAt)

inductive Op where
  | issue (targets : List Target)
  | settle (ticket : Ticket) (targets : List Target)

def after (s : RequestSequencer) : Op → RequestSequencer
  | .issue targets => (s.issue targets).2
  | .settle ticket targets => (s.settle ticket targets).2

def run (s : RequestSequencer) (log : List Op) : RequestSequencer := log.foldl after s

def issues (s : RequestSequencer) : Op → List Ticket
  | .issue targets => [(s.issue targets).1]
  | .settle _ _ => []

def issuesFor (g : Target) (s : RequestSequencer) : Op → List Ticket
  | .issue targets => if g ∈ targets then [(s.issue targets).1] else []
  | .settle _ _ => []

def claimsFor (g : Target) (s : RequestSequencer) : Op → List Ticket
  | .issue _ => []
  | .settle ticket targets => if (s.settle ticket targets).1 ∧ g ∈ targets then [ticket] else []

def issued (log : List Op) : List Ticket := observed after issues initial log

def issuedFor (g : Target) (log : List Op) : List Ticket :=
  observed after (issuesFor g) initial log

def claimedFor (g : Target) (log : List Op) : List Ticket :=
  observed after (claimsFor g) initial log

theorem run_concat (s : RequestSequencer) (log : List Op) (op : Op) :
    s.run (log ++ [op]) = (s.run log).after op := by
  rw [run, List.foldl_append]
  rfl

theorem issued_concat (log : List Op) (op : Op) :
    issued (log ++ [op]) = issued log ++ (initial.run log).issues op := observed_concat _ _ _ _ _

theorem issuedFor_concat (g : Target) (log : List Op) (op : Op) :
    issuedFor g (log ++ [op]) = issuedFor g log ++ (initial.run log).issuesFor g op :=
  observed_concat _ _ _ _ _

theorem claimedFor_concat (g : Target) (log : List Op) (op : Op) :
    claimedFor g (log ++ [op]) = claimedFor g log ++ (initial.run log).claimsFor g op :=
  observed_concat _ _ _ _ _

theorem isCurrent_iff (s : RequestSequencer) (ticket : Ticket) (g : Target) :
    s.isCurrent ticket g = true ↔
      (s.slots.get g).latest = ticket.seq ∧ (s.slots.get g).settled < ticket.seq := by
  simp [isCurrent]

theorem settle_iff (s : RequestSequencer) (ticket : Ticket) (targets : List Target) :
    (s.settle ticket targets).1 = true ↔ ∀ g ∈ targets, s.isCurrent ticket g = true := by
  rw [← List.all_eq_true]
  unfold settle
  split <;> simp [*]

theorem settle_of_refused {s : RequestSequencer} {ticket : Ticket} {targets : List Target}
    (h : (s.settle ticket targets).1 = false) : s.settle ticket targets = (false, s) := by
  unfold settle at h ⊢
  split at h
  · cases h
  · next stale => rw [if_neg stale]

theorem slot_issue (s : RequestSequencer) (targets : List Target) (g : Target) :
    (s.issue targets).2.slots.get g =
      if g ∈ targets then ⟨s.next + 1, (s.slots.get g).settled⟩ else s.slots.get g := by
  unfold issue
  rw [Slots.get_update]
  intro slot
  rfl

theorem slot_settle {s : RequestSequencer} {ticket : Ticket} {targets : List Target}
    (h : (s.settle ticket targets).1 = true) (g : Target) :
    (s.settle ticket targets).2.slots.get g =
      if g ∈ targets then ⟨(s.slots.get g).latest, ticket.seq⟩ else s.slots.get g := by
  unfold settle at h ⊢
  split at h
  · next current =>
      rw [if_pos current, Slots.get_update]
      intro slot
      rfl
  · cases h

theorem next_settle (s : RequestSequencer) (ticket : Ticket) (targets : List Target) :
    (s.settle ticket targets).2.next = s.next := by
  unfold settle
  split <;> rfl

/-- What an act can mean for one target. -/
inductive Concerns (g : Target) (s : RequestSequencer) (op : Op) : Prop
  | spared (slot : (s.after op).slots.get g = s.slots.get g) (next : s.next ≤ (s.after op).next)
      (issues : s.issuesFor g op = []) (claims : s.claimsFor g op = [])
  | issued (slot : (s.after op).slots.get g = ⟨s.next + 1, (s.slots.get g).settled⟩)
      (next : (s.after op).next = s.next + 1) (issues : s.issuesFor g op = [⟨s.next + 1⟩])
      (claims : s.claimsFor g op = [])
  | claimed (unsettled : (s.slots.get g).settled < (s.slots.get g).latest)
      (slot : (s.after op).slots.get g = ⟨(s.slots.get g).latest, (s.slots.get g).latest⟩)
      (next : (s.after op).next = s.next) (issues : s.issuesFor g op = [])
      (claims : s.claimsFor g op = [⟨(s.slots.get g).latest⟩])

theorem concerns_issue (g : Target) (s : RequestSequencer) (targets : List Target) :
    Concerns g s (.issue targets) := by
  have slot := s.slot_issue targets g
  by_cases covered : g ∈ targets
  · exact .issued (slot.trans (if_pos covered)) rfl (if_pos covered) rfl
  · exact .spared (slot.trans (if_neg covered)) (Nat.le_succ _) (if_neg covered) rfl

theorem concerns_settle (g : Target) (s : RequestSequencer) (ticket : Ticket)
    (targets : List Target) : Concerns g s (.settle ticket targets) := by
  have next := s.next_settle ticket targets
  cases settled : (s.settle ticket targets).1 with
  | false =>
      have same : s.after (.settle ticket targets) = s :=
        congrArg Prod.snd (settle_of_refused settled)
      exact .spared (by rw [same]) (Nat.le_of_eq (by rw [same])) rfl (by simp [claimsFor, settled])
  | true =>
      have slot := slot_settle settled g
      by_cases covered : g ∈ targets
      · obtain ⟨latest, fresh⟩ :=
          (s.isCurrent_iff ticket g).mp ((s.settle_iff ticket targets).mp settled g covered)
        obtain ⟨seq⟩ := ticket
        obtain rfl : (s.slots.get g).latest = seq := latest
        exact .claimed fresh (slot.trans (if_pos covered)) next rfl (if_pos ⟨settled, covered⟩)
      · exact .spared (slot.trans (if_neg covered)) (Nat.le_of_eq next.symm) rfl
          (by simp [claimsFor, covered])

theorem concerns (g : Target) (s : RequestSequencer) : (op : Op) → Concerns g s op
  | .issue targets => concerns_issue g s targets
  | .settle ticket targets => concerns_settle g s ticket targets

theorem endsAt_issued (log : List Op) : EndsAt (issued log) (initial.run log).next := by
  induction log using List.reverseRecOn with
  | nil => exact ⟨.nil, by simp [issued, observed], by simp [run, initial]⟩
  | append_singleton log op ih =>
      rw [issued_concat, run_concat]
      cases op with
      | issue targets => exact ih.concat (Nat.lt_succ_self _)
      | settle ticket targets =>
          rw [issues, List.append_nil, after, next_settle]
          exact ih

/-- What a target knows when the tickets `ts` were issued for it, `cs` of them were claimed for it,
and `n` were issued in all. -/
structure Remembers (slot : Slot) (n : Nat) (ts cs : List Ticket) : Prop where
  issued : EndsAt ts slot.latest
  claimed : EndsAt cs slot.settled
  latest_le : slot.latest ≤ n
  positive : ∀ t ∈ ts, 0 < t.seq
  granted : ∀ t ∈ cs, t ∈ ts

section

variable {slot : Slot} {n : Nat} {ts cs : List Ticket}

theorem Remembers.mono (h : Remembers slot n ts cs) {m : Nat} (hle : n ≤ m) :
    Remembers slot m ts cs := { h with latest_le := Nat.le_trans h.latest_le hle }

theorem Remembers.issue (h : Remembers slot n ts cs) :
    Remembers ⟨n + 1, slot.settled⟩ (n + 1) (ts ++ [⟨n + 1⟩]) cs where
  issued := h.issued.concat (Nat.lt_succ_of_le h.latest_le)
  claimed := h.claimed
  latest_le := Nat.le_refl _
  positive := by
    intro t ht
    rw [List.mem_append, List.mem_singleton] at ht
    rcases ht with ht | rfl
    · exact h.positive t ht
    · exact Nat.succ_pos n
  granted t ht := List.mem_append_left _ (h.granted t ht)

theorem Remembers.claim (h : Remembers slot n ts cs) (hlt : slot.settled < slot.latest) :
    Remembers ⟨slot.latest, slot.latest⟩ n ts (cs ++ [⟨slot.latest⟩]) where
  issued := h.issued
  claimed := h.claimed.concat hlt
  latest_le := h.latest_le
  positive := h.positive
  granted := by
    intro t ht
    rw [List.mem_append, List.mem_singleton] at ht
    rcases ht with ht | rfl
    · exact h.granted t ht
    · exact h.issued.last (Nat.zero_lt_of_lt hlt)

theorem Remembers.settled_le (h : Remembers slot n ts cs) : slot.settled ≤ slot.latest := by
  by_cases hpos : 0 < slot.settled
  · exact h.issued.le _ (h.granted _ (h.claimed.last hpos))
  · omega

/-- One comparison, of the newest claim with the newest issue, stands for the whole history. -/
theorem Remembers.current_iff (h : Remembers slot n ts cs) (t : Ticket) :
    slot.latest = t.seq ∧ slot.settled < t.seq ↔ ts.getLast? = some t ∧ t ∉ cs := by
  obtain ⟨seq⟩ := t
  have hle := h.settled_le
  constructor
  · rintro ⟨rfl, hlt⟩
    exact ⟨h.issued.getLast?_eq (Nat.zero_lt_of_lt hlt),
      fun ht => Nat.not_lt_of_le (h.claimed.le _ ht) hlt⟩
  · rintro ⟨hlast, hfresh⟩
    have hmem : ⟨seq⟩ ∈ ts := List.mem_of_getLast? hlast
    have hpos : 0 < seq := h.positive _ hmem
    have hlatest := h.issued.getLast?_eq (Nat.lt_of_lt_of_le hpos (h.issued.le _ hmem))
    obtain rfl : slot.latest = seq :=
      congrArg Ticket.seq (Option.some.inj (hlatest.symm.trans hlast))
    refine ⟨rfl, Nat.lt_of_le_of_ne hle fun heq => hfresh ?_⟩
    have hsettled := h.claimed.last (heq.symm ▸ hpos)
    rwa [heq] at hsettled

end

theorem remembers (g : Target) (log : List Op) :
    Remembers ((initial.run log).slots.get g) (initial.run log).next (issuedFor g log)
      (claimedFor g log) := by
  induction log using List.reverseRecOn with
  | nil =>
      have start : (initial.run []).slots.get g = ⟨0, 0⟩ := by cases g <;> rfl
      have nothing : EndsAt [] 0 := ⟨.nil, by simp, by simp⟩
      rw [start]
      exact ⟨nothing, nothing, Nat.zero_le _, by simp [issuedFor, observed],
        by simp [claimedFor, observed]⟩
  | append_singleton log op ih =>
      rw [issuedFor_concat, claimedFor_concat, run_concat]
      rcases concerns g (initial.run log) op with ⟨slot, next, issues, claims⟩ |
        ⟨slot, next, issues, claims⟩ | ⟨unsettled, slot, next, issues, claims⟩
      · rw [slot, issues, claims, List.append_nil, List.append_nil]
        exact ih.mono next
      · rw [slot, next, issues, claims, List.append_nil]
        exact ih.issue
      · rw [slot, next, issues, claims, List.append_nil]
        exact ih.claim unsettled

/-- After any log of issues and settlements, for any targets and any tickets: a ticket is current
for a target exactly if it is the last one issued for that target and was not claimed for it. It
is settled exactly if it is current for all the targets it is settled for; otherwise nothing
changes, and each target for which it is current can still be claimed. So the tickets claimed for
a target were issued for it, and they increase, so that none is claimed twice. -/
theorem target_grants_its_last_ticket_once (log : List Op) :
    let s := initial.run log
    ((issued log).Pairwise fun t u => t.seq < u.seq) ∧
    (∀ t g, s.isCurrent t g = true ↔ (issuedFor g log).getLast? = some t ∧ t ∉ claimedFor g log) ∧
    (∀ t gs, (s.settle t gs).1 = true ↔ ∀ g ∈ gs, s.isCurrent t g = true) ∧
    (∀ t gs, (s.settle t gs).1 = false →
      (s.settle t gs).2 = s ∧
        ∀ g, s.isCurrent t g = true → ((s.settle t gs).2.settle t [g]).1 = true) ∧
    ∀ g, (∀ t ∈ claimedFor g log, t ∈ issuedFor g log) ∧
      ((claimedFor g log).Pairwise fun t u => t.seq < u.seq) := by
  intro s
  refine ⟨(endsAt_issued log).increasing, ?_, s.settle_iff, ?_, ?_⟩
  · intro t g
    rw [isCurrent_iff]
    exact (remembers g log).current_iff t
  · intro t gs refused
    rw [settle_of_refused refused]
    refine ⟨rfl, fun g current => ?_⟩
    rw [settle_iff]
    exact List.forall_mem_singleton.mpr current
  · intro g
    exact ⟨(remembers g log).granted, (remembers g log).claimed.increasing⟩

end RequestSequencer

end GraphLens
