import GraphLens.Json.Value

namespace GraphLens.Json

/-- A member of a record, kept in a draft `δ` until all are read. -/
structure Field (δ : Type) where
  name : String
  isSet : δ → Bool
  read : δ → Reader δ

/-- How a value is read as a record: as an object with the members in any order and among any
others, or as a list of them in the order of their declaration. -/
structure Record (δ β : Type) where
  title : String
  blank : δ
  fields : List (Field δ)
  mayEndEarly : Bool
  finish : δ → Except Cause β

namespace Record

variable {δ β : Type} (r : Record δ β)

def complete (draft : δ) : Reader β :=
  match r.finish draft with
  | .ok b => pure b
  | .error cause => Reader.reject cause

def member : Bool × δ → Reader (Option (Bool × δ))
  | (first, draft) => do
    if ← Reader.moreMembers first then
      let name ← Reader.key
      match r.fields.find? (·.name == name) with
      | some field =>
        if field.isSet draft then Reader.reject (.duplicateField name)
        else
          Reader.colon
          return some (false, ← field.read draft)
      | none =>
        Reader.colon
        Reader.skipValue
        return some (false, draft)
    else return none

def members : Reader β := do
  let (_, draft) ← Reader.iterate r.member (true, r.blank)
  r.complete draft

/-- Reads the elements of a list, of which `count` are read, for the fields that are left. -/
def positional : List (Field δ) → Nat → δ → Reader β
  | [], _, draft => r.complete draft
  | field :: fields, count, draft => do
    if ← Reader.moreElements (count == 0) then
      positional fields (count + 1) (← field.read draft)
    else if r.mayEndEarly then r.complete draft
    else
      Reader.reject
        (.invalidLength count (r.title ++ " with " ++ toString r.fields.length ++ " elements"))

def read : Reader β := Reader.located do
  match ← Reader.peekPastSpace with
  | none => Reader.failAhead .endInValue
  | some '[' =>
    Reader.eat
    Reader.within (r.positional r.fields 0 r.blank) Reader.endList
  | some '\x7b' =>
    Reader.eat
    Reader.within r.members Reader.endObject
  | some c => Reader.invalidType r.title c

end Record

end GraphLens.Json
