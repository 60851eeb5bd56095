import GraphLens.Json.Fault

namespace GraphLens.Json

structure Cursor where
  rest : List Char
  position : Position

namespace Cursor

def ofString (s : String) : Cursor := ⟨s.toList, .start⟩

def eat : Cursor → Cursor
  | ⟨[], p⟩ => ⟨[], p⟩
  | ⟨c :: rest, p⟩ => ⟨rest, p.advance c⟩

def dropWhile (p : Char → Bool) (c : Cursor) : Cursor :=
  ⟨c.rest.dropWhile p, (c.rest.takeWhile p).foldl .advance c.position⟩

def ahead (c : Cursor) : Position := c.position.skipBytes c.rest 1

end Cursor

/-- Takes a `β` from the front of a text. A reader that fails leaves the cursor where it stopped. -/
abbrev Reader := EStateM Fault Cursor

namespace Reader

variable {σ β : Type}

def failHere (cause : Cause) : Reader β := do throw ⟨cause, some (← get).position⟩

def failAhead (cause : Cause) : Reader β := do throw ⟨cause, some (← get).ahead⟩

/-- Fails at a place that the value around will tell. -/
def reject (cause : Cause) : Reader β := throw ⟨cause, none⟩

/-- Places a fault of `r` where it left the cursor, if it has no place of its own. -/
def located (r : Reader β) : Reader β := fun c =>
  match r c with
  | .ok b c => .ok b c
  | .error e c => .error (e.placedAt c.position) c

/-- Reads `body` and then `close`. If both fail, the fault is that of `body`; the cursor moves
over what `close` could read. -/
def within (body : Reader β) (close : Reader Unit) : Reader β := fun c =>
  match body c with
  | .ok b c =>
    match close c with
    | .ok () c => .ok b c
    | .error e c => .error e c
  | .error e c =>
    match close c with
    | .ok () c => .error e c
    | .error _ c => .error e c

def peek : Reader (Option Char) := do return (← get).rest.head?

def eat : Reader Unit := modify Cursor.eat

def takeWhile (p : Char → Bool) : Reader (List Char) :=
  modifyGet fun c => (c.rest.takeWhile p, c.dropWhile p)

def isSpace (c : Char) : Bool := c = ' ' || c = '\n' || c = '\t' || c = '\r'

def peekPastSpace : Reader (Option Char) := do
  let _ ← takeWhile isSpace
  peek

def iterateFor (step : σ → Reader (Option σ)) : Nat → σ → Reader σ
  | 0, s => pure s
  | fuel + 1, s => do
    match ← step s with
    | none => pure s
    | some next => iterateFor step fuel next

/-- Repeats a step until it has nothing to add. Each repetition reads at least one character, so
that there are no more of them than characters. -/
def iterate (step : σ → Reader (Option σ)) (s : σ) : Reader σ := do
  iterateFor step ((← get).rest.length + 1) s

def word : List Char → Reader Unit
  | [] => pure ()
  | expected :: more => do
    match ← peek with
    | none => failAhead .endInValue
    | some c =>
      if c = expected then
        eat
        word more
      else failAhead .expectedIdent

def moreElements (first : Bool) : Reader Bool := do
  match ← peekPastSpace with
  | none => failAhead .endInList
  | some ']' => return false
  | some c =>
    if first then return true
    else if c = ',' then
      eat
      match ← peekPastSpace with
      | none => failAhead .endInValue
      | some ']' => failAhead .trailingComma
      | some _ => return true
    else failAhead .expectedListCommaOrEnd

def moreMembers (first : Bool) : Reader Bool := do
  match ← peekPastSpace with
  | none => failAhead .endInObject
  | some '\x7d' => return false
  | some c =>
    if first then
      if c = '"' then return true else failAhead .keyMustBeString
    else if c = ',' then
      eat
      match ← peekPastSpace with
      | none => failAhead .endInValue
      | some '"' => return true
      | some '\x7d' => failAhead .trailingComma
      | some _ => failAhead .keyMustBeString
    else failAhead .expectedObjectCommaOrEnd

def colon : Reader Unit := do
  match ← peekPastSpace with
  | none => failAhead .endInObject
  | some ':' => eat
  | some _ => failAhead .expectedColon

def endList : Reader Unit := do
  match ← peekPastSpace with
  | none => failAhead .endInList
  | some ']' => eat
  | some ',' =>
    eat
    match ← peekPastSpace with
    | some ']' => failAhead .trailingComma
    | _ => failAhead .trailingCharacters
  | some _ => failAhead .trailingCharacters

def endObject : Reader Unit := do
  match ← peekPastSpace with
  | none => failAhead .endInObject
  | some '\x7d' => eat
  | some ',' => failAhead .trailingComma
  | some _ => failAhead .trailingCharacters

def elements (item : Reader β) : Reader (List β) := do
  let step (read : List β) : Reader (Option (List β)) := do
    if ← moreElements read.isEmpty then return some ((← item) :: read) else return none
  return (← iterate step []).reverse

def atEnd : Reader Unit := do
  match ← peekPastSpace with
  | none => pure ()
  | some _ => failAhead .trailingCharacters

def readAll (r : Reader β) (s : String) : Except Fault β :=
  match (do let b ← r; atEnd; return b : Reader β) (.ofString s) with
  | .ok b _ => .ok b
  | .error e _ => .error e

end Reader

end GraphLens.Json
