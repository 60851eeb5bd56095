import GraphLens.Json.Fault

namespace GraphLens

structure CompilerFailure where
  text : String
  deriving DecidableEq

structure RenderFailure where
  text : String
  deriving DecidableEq

inductive GraphKind where
  | ast
  | ptree
  deriving DecidableEq

def GraphKind.name : GraphKind → String
  | .ast => "ast"
  | .ptree => "ptree"

def GraphKind.title : GraphKind → String
  | .ast => "ast"
  | .ptree => "parse tree"

def CompilerFailure.message (e : CompilerFailure) : String := "compiler failed: " ++ e.text

def RenderFailure.message (e : RenderFailure) : String := "render failed: " ++ e.text

inductive PipelineError where
  | compiler (failure : CompilerFailure)
  | malformed (fault : Json.Fault)
  | render (graph : GraphKind) (failure : RenderFailure)

namespace PipelineError

def message : PipelineError → String
  | compiler failure => failure.message
  | malformed fault => "malformed compile result: " ++ fault.message
  | render graph failure => graph.title ++ " graph: " ++ failure.message

def source : PipelineError → Option String
  | compiler _ => none
  | malformed fault => some fault.message
  | render _ failure => some failure.message

end PipelineError

end GraphLens
