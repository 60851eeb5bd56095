import GraphLens.Json.Record
import GraphLens.Json.Writer

namespace GraphLens

structure PipelineConfig where
  successMessage : String
  failureMessage : String
  deriving DecidableEq

namespace PipelineConfig

open Json

def standard : PipelineConfig := ⟨"Success!", "Fail!"⟩

structure Draft where
  success : Option String := none
  failure : Option String := none

def record : Record Draft PipelineConfig where
  title := "struct PipelineConfig"
  blank := {}
  fields :=
    [{ name := "success_message"
       isSet := (·.success.isSome)
       read := fun d => return { d with success := some (← Reader.textAs "a string") } },
     { name := "failure_message"
       isSet := (·.failure.isSome)
       read := fun d => return { d with failure := some (← Reader.textAs "a string") } }]
  mayEndEarly := true
  finish d :=
    .ok ⟨d.success.getD standard.successMessage, d.failure.getD standard.failureMessage⟩

def ofJson (raw : String) : Except Fault PipelineConfig := Reader.readAll record.read raw

def toJson (c : PipelineConfig) : String :=
  writeObject
    [("success_message", writeText c.successMessage),
      ("failure_message", writeText c.failureMessage)]

end PipelineConfig

end GraphLens
