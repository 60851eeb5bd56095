import GraphLens.Request.ContentLoads

namespace GraphLens

namespace ContentLoads

/-- The canvas is to be painted again once the content of the ticket has been decoded. -/
def Awaits (l : ContentLoads) (ticket : Ticket) : Prop :=
  l.sequencer.isCurrent ticket l.target = true

def issued (l : ContentLoads) : Nat := l.sequencer.next

def slot (l : ContentLoads) : Slot := l.sequencer.slots.get l.target

theorem awaits_iff (l : ContentLoads) (ticket : Ticket) :
    l.Awaits ticket ↔ l.slot.latest = ticket.seq ∧ l.slot.settled < ticket.seq := by
  simp [Awaits, RequestSequencer.isCurrent, slot]

/-- The newest ticket was issued for the target, and none was settled that was not issued. -/
structure Sound (l : ContentLoads) : Prop where
  latest : l.slot.latest = l.issued
  settled_le : l.slot.settled ≤ l.issued

theorem sound_ofTarget (target : Target) : (ofTarget target).Sound := by
  cases target <;> exact ⟨rfl, Nat.le_refl 0⟩

theorem issued_pending (l : ContentLoads) : l.pending.2.issued = l.issued + 1 := rfl

theorem slot_pending (l : ContentLoads) :
    l.pending.2.slot = ⟨l.issued + 1, l.slot.settled⟩ := by
  simp [pending, slot, issued, RequestSequencer.issue, Slots.update, Slots.get_set]

theorem Sound.pending {l : ContentLoads} (h : l.Sound) : l.pending.2.Sound where
  latest := by rw [slot_pending, issued_pending]
  settled_le := by
    rw [slot_pending, issued_pending]
    exact Nat.le_succ_of_le h.settled_le

theorem Sound.awaits_pending_iff {l : ContentLoads} (h : l.Sound) (ticket : Ticket) :
    l.pending.2.Awaits ticket ↔ ticket = l.pending.1 := by
  have hle := h.settled_le
  obtain ⟨seq⟩ := ticket
  rw [awaits_iff, slot_pending, show l.pending.1 = ⟨l.issued + 1⟩ from rfl, Ticket.mk.injEq]
  dsimp only
  omega

theorem all_current_iff (l : ContentLoads) (ticket : Ticket) :
    [l.target].all (l.sequencer.isCurrent ticket) = true ↔ l.Awaits ticket := by
  rw [List.all_cons, List.all_nil, Bool.and_true, Awaits]

theorem loaded_of_awaits {l : ContentLoads} {ticket : Ticket} (h : l.Awaits ticket) :
    (l.loaded ticket).1 = true ∧ (l.loaded ticket).2.issued = l.issued ∧
      (l.loaded ticket).2.slot = ⟨ticket.seq, ticket.seq⟩ := by
  have hlatest := ((l.awaits_iff ticket).mp h).1
  have current := (l.all_current_iff ticket).mpr h
  simp only [loaded, RequestSequencer.settle, current, if_true, issued, true_and]
  simp [slot, Slots.update, Slots.get_set, ← hlatest]

theorem loaded_of_not_awaits {l : ContentLoads} {ticket : Ticket} (h : ¬l.Awaits ticket) :
    l.loaded ticket = (false, l) := by
  have stale := mt (l.all_current_iff ticket).mp h
  simp only [loaded, RequestSequencer.settle, if_neg stale]

theorem not_awaits_of_settled {l : ContentLoads} (h : l.slot.latest = l.slot.settled)
    (ticket : Ticket) : ¬l.Awaits ticket := by
  rw [awaits_iff]
  omega

theorem Sound.loaded {l : ContentLoads} (h : l.Sound) (ticket : Ticket) :
    (l.loaded ticket).2.Sound := by
  by_cases awaits : l.Awaits ticket
  · obtain ⟨-, hissued, hslot⟩ := loaded_of_awaits awaits
    have hlatest := ((l.awaits_iff ticket).mp awaits).1
    rw [h.latest] at hlatest
    refine ⟨by rw [hslot, hissued, hlatest], Nat.le_of_eq ?_⟩
    rw [hslot, hissued, hlatest]
  · rw [loaded_of_not_awaits awaits]
    exact h

theorem not_awaits_loaded {l : ContentLoads} {ticket : Ticket} (h : l.Awaits ticket)
    (other : Ticket) : ¬(l.loaded ticket).2.Awaits other :=
  not_awaits_of_settled (by rw [(loaded_of_awaits h).2.2]) other

theorem Sound.ready {l : ContentLoads} (h : l.Sound) : l.ready.Sound := h.pending.loaded _

theorem Sound.awaits_pending {l : ContentLoads} (h : l.Sound) :
    l.pending.2.Awaits l.pending.1 := (h.awaits_pending_iff _).mpr rfl

theorem Sound.issued_ready {l : ContentLoads} (h : l.Sound) : l.ready.issued = l.issued + 1 :=
  (loaded_of_awaits h.awaits_pending).2.1

theorem Sound.not_awaits_ready {l : ContentLoads} (h : l.Sound) (ticket : Ticket) :
    ¬l.ready.Awaits ticket := not_awaits_loaded h.awaits_pending ticket

end ContentLoads

end GraphLens
