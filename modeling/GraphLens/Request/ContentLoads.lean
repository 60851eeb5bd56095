import GraphLens.Request.Sequencer

namespace GraphLens

/-- Content that is still being decoded when a canvas gets it has a ticket for the canvas. Once it
has been decoded, the canvas is painted again only if the ticket is still the newest. -/
structure ContentLoads where
  target : Target
  sequencer : RequestSequencer
  deriving DecidableEq

namespace ContentLoads

def ofTarget (target : Target) : ContentLoads := ⟨target, .initial⟩

def pending (l : ContentLoads) : Ticket × ContentLoads :=
  let (ticket, sequencer) := l.sequencer.issue [l.target]
  (ticket, { l with sequencer })

def ready (l : ContentLoads) : ContentLoads :=
  let (ticket, sequencer) := l.sequencer.issue [l.target]
  { l with sequencer := (sequencer.settle ticket [l.target]).2 }

/-- The content of a ticket has been decoded; whether the canvas should be painted again. -/
def loaded (l : ContentLoads) (ticket : Ticket) : Bool × ContentLoads :=
  let (current, sequencer) := l.sequencer.settle ticket [l.target]
  (current, { l with sequencer })

end ContentLoads

end GraphLens
