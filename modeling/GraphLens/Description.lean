import GraphLens.Decimal.Layout
import GraphLens.Pipeline
import GraphLens.Text.Quoted
import GraphLens.Viewport

namespace GraphLens.Description

def numberLayout : Decimal.Layout where
  tie := .up
  plainFrom := -4
  plainBelow := 16
  pointZero := true
  plusSign := false
  nan := "NaN"
  infinity := "inf"
  negInfinity := "-inf"

def struct (name : String) (members : List (String × String)) (complete : Bool) : String :=
  let shown := members.map fun (key, value) => key ++ ": " ++ value
  let parts := if complete then shown else shown ++ [".."]
  name ++ " \x7b " ++ String.intercalate ", " parts ++ " \x7d"

def list (items : List String) : String := "[" ++ String.intercalate ", " items ++ "]"

def bool (b : Bool) : String := if b then "true" else "false"

def affine (m : Affine Float) : String :=
  "Affine(" ++ list (m.coeffs.map numberLayout.render) ++ ")"

def transform (t : Transform Float) : String :=
  struct "Transform" [("forward", affine t.forward), ("inverse", affine t.inverse)] true

def viewport {σ ι : Type} (v : Viewport σ Float ι) : String :=
  struct "Viewport"
    [("transform", transform v.transform), ("depth", toString v.tracker.depth),
      ("has_content", bool v.content.isSome)]
    false

def slot (s : Slot) : String :=
  struct "Slot" [("latest", toString s.latest), ("settled", toString s.settled)] true

def sequencer (s : RequestSequencer) : String :=
  struct "RequestSequencer"
    [("next", toString s.next), ("slots", list (Target.all.map fun t => slot (s.slots.get t)))]
    true

def config (c : PipelineConfig) : String :=
  struct "PipelineConfig"
    [("success_message", Text.quoted c.successMessage),
      ("failure_message", Text.quoted c.failureMessage)]
    true

def pipeline {ι : Type} (p : Pipeline ι) : String :=
  struct "CompilePipeline"
    [("config", config p.config), ("ast_cached", bool p.astCache.entry.isSome),
      ("ptree_cached", bool p.ptreeCache.entry.isSome), ("sequencer", sequencer p.sequencer)]
    false

def consumers : String := struct "Consumers" [] false

end GraphLens.Description
