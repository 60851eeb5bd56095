namespace GraphLens.Log

inductive Level where
  | trace
  | debug
  | info
  | warn

def Level.name : Level → String
  | .trace => "TRACE"
  | .debug => "DEBUG"
  | .info => "INFO"
  | .warn => "WARN"

inductive Value where
  | text (s : String)
  | count (n : Nat)
  | number (x : Float)

/-- An entry tells of a moment, or opens a span of time in which the entries after it fall. -/
inductive Kind where
  | event (message : String)
  | span (name : String)

structure Entry where
  level : Level
  kind : Kind
  fields : List (String × Value)

def event (level : Level) (message : String) (fields : List (String × Value)) : Entry :=
  ⟨level, .event message, fields⟩

end GraphLens.Log
