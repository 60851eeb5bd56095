import GraphLens.Surface

namespace GraphLens

variable {α : Type}

/-- An image known by its number and nominal size only. -/
structure ImageHandle (α : Type) where
  id : Nat
  size : Size α

namespace RecordingSurface

structure Snapshot (α : Type) where
  transform : Affine α
  depth : Nat

structure Event (α : Type) where
  call : Surface.Call α (ImageHandle α)
  state : Snapshot α

def depthLimit : Nat := Nat.pow 2 32 - 1

def depthOf (stack : List (Snapshot α)) : Nat := min stack.length depthLimit

end RecordingSurface

open RecordingSurface in
/-- A recording surface; the stack has its newest entry first, the record its oldest. -/
structure RecordingSurface (α : Type) where
  size : Size α
  state : Snapshot α
  stack : List (Snapshot α)
  events : Array (Event α)

namespace RecordingSurface

variable [Scalar α]

def ofSize (size : Size α) : RecordingSurface α := ⟨size, ⟨.identity, 0⟩, [], #[]⟩

def withTransform (s : RecordingSurface α) (m : Affine α) : RecordingSurface α :=
  { s with state := { s.state with transform := m } }

def advance (s : RecordingSurface α) : Surface.Call α (ImageHandle α) → RecordingSurface α
  | .save =>
    let stack := s.state :: s.stack
    { s with stack, state := { s.state with depth := depthOf stack } }
  | .restore =>
    match s.stack with
    | [] => { s with state := { s.state with depth := depthOf s.stack } }
    | saved :: stack => { s with stack, state := { saved with depth := depthOf stack } }
  | .translate v => s.withTransform (s.state.transform * .shift v)
  | .scale sx sy => s.withTransform (s.state.transform * .scaling sx sy)
  | .rotate angle => s.withTransform (s.state.transform * .rotation angle)
  | .transform m => s.withTransform (s.state.transform * m)
  | .setTransform m => s.withTransform m
  | .clearRect _ | .drawImage _ _ => s

def perform (s : RecordingSurface α) (call : Surface.Call α (ImageHandle α)) :
    RecordingSurface α :=
  let s := s.advance call
  { s with events := s.events.push ⟨call, s.state⟩ }

instance : DrawingSurface (RecordingSurface α) α (ImageHandle α) := ⟨size, perform⟩

def clearEvents (s : RecordingSurface α) : RecordingSurface α := { s with events := #[] }

def draws (s : RecordingSurface α) : Array (Event α) := s.events.filter (·.call.isDraw)

def lastImage (s : RecordingSurface α) : Option (ImageHandle α) :=
  (s.events.filterMap (·.call.image?)).back?

end RecordingSurface

end GraphLens
