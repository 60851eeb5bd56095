import GraphLens.Page.ScriptValue

namespace GraphLens

structure Element where
  tag : String
  text : String
  attributes : List (String × String)
  children : List Element

namespace Element

def ofTag (tag : String) : Element := ⟨tag, "", [], []⟩

def withText (e : Element) (text : String) : Element := { e with text, children := [] }

def appendChild (e : Element) (child : Element) : Element :=
  { e with children := e.children ++ [child] }

def setAttribute (e : Element) (name value : String) : Element :=
  { e with attributes := (name, value) :: e.attributes.filter (·.1 != name) }

end Element

inductive Document where
  | creates
  | absent
  | throws (reason : ScriptValue)

end GraphLens
