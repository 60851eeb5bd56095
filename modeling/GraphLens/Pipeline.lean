import GraphLens.Compile.Result
import GraphLens.Pipeline.Cache
import GraphLens.Pipeline.Config
import GraphLens.Pipeline.Failure
import GraphLens.Request.Sequencer

namespace GraphLens

class Compiler (ε : Type) where
  compile : ε → String → Except CompilerFailure String × ε

class GraphRenderer (ε : Type) (ι : outParam Type) where
  render : ε → String → Except RenderFailure ι × ε

namespace Pipeline

inductive ListKind where
  | tokens
  | analysis
  deriving DecidableEq

def ListKind.name : ListKind → String
  | .tokens => "tokens"
  | .analysis => "analysis"

inductive Status where
  | success
  | failure
  deriving DecidableEq

def Status.name : Status → String
  | .success => "success"
  | .failure => "failure"

inductive Call (ι : Type) where
  | compile (source : String)
  | render (spec : String)
  | clear (list : ListKind)
  | append (list : ListKind) (entry : String)
  | setContent (graph : GraphKind) (image : ι)
  | notify (status : Status) (message : String)

inductive Notice where
  | started (ticket : Ticket) (sourceLength : Option Nat)
  | requested (ticket : Ticket)
  | reused (specLength : Nat)
  | applied
  | failed (error : PipelineError)
  | discarded (latest : Option Ticket)

inductive Activity (ι : Type) where
  | call (call : Call ι)
  | notice (notice : Notice)

structure Summary where
  tokens : Nat
  analysis : Nat
  astRendered : Bool
  ptreeRendered : Bool
  deriving DecidableEq

inductive Outcome where
  | applied (summary : Summary)
  | discarded

structure Picture (ι : Type) where
  image : ι
  rendered : Bool

/-- A value that was come by in the environment `ε`, with what was done. -/
structure Work (ε ι β : Type) where
  env : ε
  activities : List (Activity ι)
  value : β

end Pipeline

structure Pipeline (ι : Type) where
  config : PipelineConfig
  astCache : GraphCache ι
  ptreeCache : GraphCache ι
  sequencer : RequestSequencer

namespace Pipeline

variable {ε ι : Type}

def initial : Pipeline ι := ⟨.standard, .empty, .empty, .initial⟩

def picture [GraphRenderer ε ι] (cache : GraphCache ι) (spec : String) (env : ε) :
    Work ε ι (Except RenderFailure (Picture ι)) :=
  match cache.lookup spec with
  | some image => ⟨env, [.notice (.reused spec.utf8ByteSize)], .ok ⟨image, false⟩⟩
  | none =>
    let (result, env) := GraphRenderer.render env spec
    ⟨env, [.call (.render spec)], result.map (⟨·, true⟩)⟩

structure Prepared (ι : Type) where
  result : CompileResult
  ast : Picture ι
  ptree : Picture ι

/-- All that can fail: decoding, and a picture of each graph. No view is touched. -/
def prepare [GraphRenderer ε ι] (p : Pipeline ι) (answer : Except CompilerFailure String)
    (env : ε) : Work ε ι (Except PipelineError (Prepared ι)) :=
  match answer with
  | .error failure => ⟨env, [], .error (.compiler failure)⟩
  | .ok raw =>
    match CompileResult.ofJson raw with
    | .error fault => ⟨env, [], .error (.malformed fault)⟩
    | .ok result =>
      let first := picture p.astCache result.ast env
      match first.value with
      | .error failure => ⟨first.env, first.activities, .error (.render .ast failure)⟩
      | .ok ast =>
        let second := picture p.ptreeCache result.ptree first.env
        let activities := first.activities ++ second.activities
        match second.value with
        | .error failure => ⟨second.env, activities, .error (.render .ptree failure)⟩
        | .ok ptree => ⟨second.env, activities, .ok ⟨result, ast, ptree⟩⟩

def replaceList (list : ListKind) (entries : List String) : List (Activity ι) :=
  .call (.clear list) :: entries.map fun entry => .call (.append list entry)

def showing (config : PipelineConfig) (r : Prepared ι) : List (Activity ι) :=
  replaceList .tokens r.result.tokens ++
    [.call (.setContent .ast r.ast.image), .call (.setContent .ptree r.ptree.image)] ++
    replaceList .analysis r.result.analysis ++
    [.notice .applied, .call (.notify .success config.successMessage)]

def failing (config : PipelineConfig) (error : PipelineError) : List (Activity ι) :=
  [.notice (.failed error), .call (.notify .failure config.failureMessage)]

def recache (cache : GraphCache ι) (spec : String) (picture : Picture ι) : GraphCache ι :=
  if picture.rendered then cache.commit spec picture.image else cache

def commit (p : Pipeline ι) (r : Prepared ι) : Pipeline ι :=
  { p with
    astCache := recache p.astCache r.result.ast r.ast
    ptreeCache := recache p.ptreeCache r.result.ptree r.ptree }

def Prepared.summary (r : Prepared ι) : Summary :=
  ⟨r.result.tokens.length, r.result.analysis.length, r.ast.rendered, r.ptree.rendered⟩

def fanOut [GraphRenderer ε ι] (p : Pipeline ι) (answer : Except CompilerFailure String)
    (env : ε) : Work ε ι (Pipeline ι × Except PipelineError Summary) :=
  let work := p.prepare answer env
  match work.value with
  | .error error =>
    ⟨work.env, work.activities ++ failing p.config error, p, .error error⟩
  | .ok r => ⟨work.env, work.activities ++ showing p.config r, p.commit r, .ok r.summary⟩

/-- Compiles a source and brings the answer to the views. Requests that are still open become
stale. -/
def run [Compiler ε] [GraphRenderer ε ι] (p : Pipeline ι) (source : String) (env : ε) :
    Work ε ι (Pipeline ι × Except PipelineError Summary) :=
  let (ticket, sequencer) := p.sequencer.issue Target.all
  let (answer, env) := Compiler.compile env source
  let (_, sequencer) := sequencer.settle ticket Target.all
  let work := fanOut { p with sequencer } answer env
  { work with
    activities :=
      .notice (.started ticket (some source.utf8ByteSize)) :: .call (.compile source) ::
        work.activities }

def begin (p : Pipeline ι) : Ticket × Pipeline ι × List Notice :=
  let (ticket, sequencer) := p.sequencer.issue Target.all
  (ticket, { p with sequencer }, [.requested ticket])

/-- Ends a request with the answer of the compiler. If its ticket is stale or was used before,
nothing is touched. -/
def complete [GraphRenderer ε ι] (p : Pipeline ι) (ticket : Ticket)
    (answer : Except CompilerFailure String) (env : ε) :
    Work ε ι (Pipeline ι × Except PipelineError Outcome) :=
  match p.sequencer.settle ticket Target.all with
  | (false, _) =>
    ⟨env, [.notice (.started ticket none), .notice (.discarded p.sequencer.latest)], p,
      .ok .discarded⟩
  | (true, sequencer) =>
    let work := fanOut { p with sequencer } answer env
    ⟨work.env, .notice (.started ticket none) :: work.activities, work.value.1,
      work.value.2.map .applied⟩

end Pipeline

end GraphLens
