namespace GraphLens

/-- The keys held during an event, as a set of bits. Bits without a key are kept. -/
structure Modifiers where
  bits : UInt8
  deriving DecidableEq

namespace Modifiers

def empty : Modifiers := ⟨0⟩

def shiftKey : Modifiers := ⟨1⟩

def ctrlKey : Modifiers := ⟨2⟩

def altKey : Modifiers := ⟨4⟩

def metaKey : Modifiers := ⟨8⟩

def union (a b : Modifiers) : Modifiers := ⟨a.bits ||| b.bits⟩

instance : Union Modifiers := ⟨union⟩

def contains (a b : Modifiers) : Bool := a.bits &&& b.bits == b.bits

def named : List (String × Modifiers) :=
  [("SHIFT", shiftKey), ("CTRL", ctrlKey), ("ALT", altKey), ("META", metaKey)]

def ofKeys (shift ctrl alt hyper : Bool) : Modifiers :=
  let held (down : Bool) (key : Modifiers) : Modifiers := if down then key else empty
  held shift shiftKey ∪ held ctrl ctrlKey ∪ held alt altKey ∪ held hyper metaKey

end Modifiers

end GraphLens
