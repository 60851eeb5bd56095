import GraphLens.Json.Numeral
import GraphLens.Json.StringLiteral

namespace GraphLens.Json

inductive Value where
  | null
  | bool (b : Bool)
  | number (n : Number)
  | text (s : String)
  | array (items : List Value)
  | object (members : List (String × Value))

def nestingLimit : Nat := 127

namespace Reader

def list {β : Type} (item : Reader β) : Reader (List β) := do
  eat
  within (elements item) endList

def object {β : Type} (item : Reader β) : Reader (List (String × β)) := do
  let step (read : List (String × β)) : Reader (Option (List (String × β))) := do
    if ← moreMembers read.isEmpty then
      let name ← key
      colon
      return some ((name, ← item) :: read)
    else return none
  eat
  within (do return (← iterate step []).reverse) endObject

def valueWith (inner : Option (Reader Value)) : Reader Value := do
  match ← peekPastSpace with
  | none => failAhead .endInValue
  | some 'n' =>
    eat
    word "ull".toList
    return .null
  | some 't' =>
    eat
    word "rue".toList
    return .bool true
  | some 'f' =>
    eat
    word "alse".toList
    return .bool false
  | some '"' =>
    eat
    return .text (← text)
  | some '[' =>
    match inner with
    | none => failAhead .recursionLimit
    | some item => return .array (← list item)
  | some '\x7b' =>
    match inner with
    | none => failAhead .recursionLimit
    | some item => return .object (← object item)
  | some c =>
    if c = '-' ∨ isDigit c then return .number (← number) else failAhead .expectedValue

def value : Nat → Reader Value
  | 0 => valueWith none
  | room + 1 => valueWith (some (value room))

inductive Bracket where
  | list
  | object

/-- What is done next while values are passed over, with the open brackets, innermost first. -/
inductive Pending where
  | value (brackets : List Bracket)
  | separator (brackets : List Bracket)

def skipKey : Reader Unit := do
  match ← peekPastSpace with
  | none => failAhead .endInObject
  | some '"' =>
    eat
    skipText
    colon
  | some _ => failAhead .keyMustBeString

def skipOpening (bracket : Bracket) (brackets : List Bracket) : Reader Pending := do
  eat
  match bracket, ← peekPastSpace with
  | .list, none => failAhead .endInList
  | .object, none => failAhead .endInObject
  | .list, some ']' | .object, some '\x7d' =>
    eat
    return .separator brackets
  | .list, some _ => return .value (.list :: brackets)
  | .object, some _ =>
    skipKey
    return .value (.object :: brackets)

/-- Passes over what is next: a value or its opening bracket, or a separator or a closing
bracket. Nothing is next once every bracket is closed. -/
def skipStep : Pending → Reader (Option Pending)
  | .value brackets => do
    match ← peekPastSpace with
    | none => failAhead .endInValue
    | some 'n' =>
      eat
      word "ull".toList
      return some (.separator brackets)
    | some 't' =>
      eat
      word "rue".toList
      return some (.separator brackets)
    | some 'f' =>
      eat
      word "alse".toList
      return some (.separator brackets)
    | some '"' =>
      eat
      skipText
      return some (.separator brackets)
    | some '[' => return some (← skipOpening .list brackets)
    | some '\x7b' => return some (← skipOpening .object brackets)
    | some c =>
      if c = '-' ∨ isDigit c then
        skipNumber
        return some (.separator brackets)
      else failAhead .expectedValue
  | .separator [] => return none
  | .separator (.list :: brackets) => do
    match ← peekPastSpace with
    | none => failAhead .endInList
    | some ',' =>
      eat
      return some (.value (.list :: brackets))
    | some ']' =>
      eat
      return some (.separator brackets)
    | some _ => failAhead .expectedListCommaOrEnd
  | .separator (.object :: brackets) => do
    match ← peekPastSpace with
    | none => failAhead .endInObject
    | some ',' =>
      eat
      skipKey
      return some (.value (.object :: brackets))
    | some '\x7d' =>
      eat
      return some (.separator brackets)
    | some _ => failAhead .expectedObjectCommaOrEnd

def skipValue : Reader Unit := do
  let _ ← iterate skipStep (.value [])

def invalidType {β : Type} (expected : String) (c : Char) : Reader β := located do
  let found : Found ← match c with
    | 'n' => do
      eat
      word "ull".toList
      pure .null
    | 't' => do
      eat
      word "rue".toList
      pure (.bool true)
    | 'f' => do
      eat
      word "alse".toList
      pure (.bool false)
    | '"' => do
      eat
      pure (.text (← text))
    | '[' => pure .sequence
    | '\x7b' => pure .map
    | c => if c = '-' ∨ isDigit c then do pure (.number (← number)) else failAhead .expectedValue
  reject (.invalidType found expected)

def textAs (expected : String) : Reader String := do
  match ← peekPastSpace with
  | none => failAhead .endInValue
  | some '"' =>
    eat
    text
  | some c => invalidType expected c

def numberAs (expected : String) : Reader Number := do
  match ← peekPastSpace with
  | none => failAhead .endInValue
  | some c => if c = '-' ∨ isDigit c then number else invalidType expected c

end Reader

end GraphLens.Json
