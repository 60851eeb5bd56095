namespace GraphLens

inductive Target where
  | tokens
  | ast
  | ptree
  | analysis
  deriving DecidableEq

namespace Target

def all : List Target := [tokens, ast, ptree, analysis]

def name : Target → String
  | tokens => "tokens"
  | ast => "ast"
  | ptree => "ptree"
  | analysis => "analysis"

end Target

structure Ticket where
  seq : Nat
  deriving DecidableEq, Ord

structure Slot where
  latest : Nat
  settled : Nat
  deriving DecidableEq

structure Slots where
  tokens : Slot
  ast : Slot
  ptree : Slot
  analysis : Slot
  deriving DecidableEq

namespace Slots

def get (s : Slots) : Target → Slot
  | .tokens => s.tokens
  | .ast => s.ast
  | .ptree => s.ptree
  | .analysis => s.analysis

def set (s : Slots) (t : Target) (slot : Slot) : Slots :=
  match t with
  | .tokens => { s with tokens := slot }
  | .ast => { s with ast := slot }
  | .ptree => { s with ptree := slot }
  | .analysis => { s with analysis := slot }

theorem get_set (s : Slots) (t u : Target) (slot : Slot) :
    (s.set t slot).get u = if t = u then slot else s.get u := by
  cases t <;> cases u <;> rfl

def update (s : Slots) (targets : List Target) (f : Slot → Slot) : Slots :=
  targets.foldl (fun s t => s.set t (f (s.get t))) s

end Slots

/-- The number of tickets issued, and what the targets remember. -/
structure RequestSequencer where
  next : Nat
  slots : Slots
  deriving DecidableEq

namespace RequestSequencer

def initial : RequestSequencer := ⟨0, ⟨⟨0, 0⟩, ⟨0, 0⟩, ⟨0, 0⟩, ⟨0, 0⟩⟩⟩

instance : Inhabited RequestSequencer := ⟨initial⟩

def issue (s : RequestSequencer) (targets : List Target) : Ticket × RequestSequencer :=
  let seq := s.next + 1
  (⟨seq⟩, ⟨seq, s.slots.update targets fun slot => { slot with latest := seq }⟩)

def latest (s : RequestSequencer) : Option Ticket := if 0 < s.next then some ⟨s.next⟩ else none

/-- The ticket is the newest of a target and not settled for it. -/
def isCurrent (s : RequestSequencer) (ticket : Ticket) (target : Target) : Bool :=
  let slot := s.slots.get target
  slot.latest == ticket.seq && decide (slot.settled < ticket.seq)

/-- Settles a ticket for some targets, if it is current for all of them; otherwise nothing
changes. -/
def settle (s : RequestSequencer) (ticket : Ticket) (targets : List Target) :
    Bool × RequestSequencer :=
  if targets.all (s.isCurrent ticket) then
    (true,
      { s with slots := s.slots.update targets fun slot => { slot with settled := ticket.seq } })
  else (false, s)

end RequestSequencer

end GraphLens
