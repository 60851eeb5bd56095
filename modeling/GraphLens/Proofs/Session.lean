import GraphLens.Proofs.FanOut

namespace GraphLens

open Pipeline

inductive Pipeline.Request where
  | begin
  | run (source : String)
  | complete (ticket : Ticket) (answer : Except CompilerFailure String)

structure Session (ε σ α ι : Type) where
  pipeline : Pipeline ι
  env : ε
  views : Views σ α ι

namespace Session

variable {ε σ α ι β : Type}

def initial (config : PipelineConfig) (env : ε) (views : Views σ α ι) : Session ε σ α ι :=
  ⟨{ Pipeline.initial with config }, env, views⟩

variable [Scalar α] [DrawingSurface σ α ι] [GraphRenderer ε ι] [Compiler ε]

def finish (s : Session ε σ α ι) (w : Work ε ι (Pipeline ι × β)) : Session ε σ α ι :=
  ⟨w.value.1, w.env, s.views.performAll w.activities⟩

def after (s : Session ε σ α ι) : Request → Session ε σ α ι
  | .begin => { s with pipeline := s.pipeline.begin.2.1 }
  | .run source => s.finish (s.pipeline.run source s.env)
  | .complete ticket answer => s.finish (s.pipeline.complete ticket answer s.env)

def activities (s : Session ε σ α ι) : Request → List (Activity ι)
  | .begin => s.pipeline.begin.2.2.map .notice
  | .run source => (s.pipeline.run source s.env).activities
  | .complete ticket answer => (s.pipeline.complete ticket answer s.env).activities

def play (s : Session ε σ α ι) (log : List Request) : Session ε σ α ι := log.foldl after s

def along (see : Session ε σ α ι → Request → List β) (s : Session ε σ α ι) :
    List Request → List β
  | [] => []
  | r :: log => see s r ++ along see (s.after r) log

theorem play_concat (s : Session ε σ α ι) (log : List Request) (r : Request) :
    s.play (log ++ [r]) = (s.play log).after r := by
  rw [play, List.foldl_append]
  rfl

theorem along_concat (see : Session ε σ α ι → Request → List β) (s : Session ε σ α ι)
    (log : List Request) (r : Request) :
    s.along see (log ++ [r]) = s.along see log ++ see (s.play log) r := by
  induction log generalizing s with
  | nil => exact List.append_nil _
  | cons q log ih => rw [List.cons_append, along, ih, along, List.append_assoc]; rfl

def ticket (s : Session ε σ α ι) : Request → Ticket
  | .begin | .run _ => (s.pipeline.sequencer.issue Target.all).1
  | .complete ticket _ => ticket

def issues (s : Session ε σ α ι) : Request → List Ticket
  | .begin => [s.pipeline.begin.1]
  | .run source => [s.ticket (.run source)]
  | .complete _ _ => []

def grants (s : Session ε σ α ι) : Request → List Ticket
  | .begin => [s.pipeline.begin.1]
  | .run _ | .complete _ _ => []

/-- The ticket of a request, if the request reaches a view or the status. -/
def reaches (s : Session ε σ α ι) (r : Request) : List Ticket :=
  if (calls (s.activities r)).any Call.reachesView then [s.ticket r] else []

theorem reaches_run (s : Session ε σ α ι) (source : String) :
    s.reaches (.run source) = [s.ticket (.run source)] := by
  obtain ⟨cs, hcs, h⟩ := run_fansOut s.pipeline s.views s.env source
  obtain ⟨status, message, hm⟩ := h.reaches_status
  have hany : (calls (s.activities (.run source))).any Call.reachesView = true := by
    rw [activities, hcs]
    exact List.any_eq_true.mpr ⟨_, List.mem_cons_of_mem _ hm, rfl⟩
  rw [reaches, if_pos hany]

theorem reaches_complete_of_current (s : Session ε σ α ι) (ticket : Ticket)
    (answer : Except CompilerFailure String)
    (h : (s.pipeline.sequencer.settle ticket Target.all).1 = true) :
    s.reaches (.complete ticket answer) = [ticket] := by
  obtain ⟨result, _, hf⟩ := complete_fansOut s.pipeline s.views s.env ticket answer h
  obtain ⟨status, message, hm⟩ := hf.reaches_status
  have hany : (calls (s.activities (.complete ticket answer))).any Call.reachesView = true :=
    List.any_eq_true.mpr ⟨_, hm, rfl⟩
  rw [reaches, if_pos hany, Session.ticket]

omit [Scalar α] [DrawingSurface σ α ι] in
theorem reaches_complete_of_stale (s : Session ε σ α ι) (ticket : Ticket)
    (answer : Except CompilerFailure String)
    (h : (s.pipeline.sequencer.settle ticket Target.all).1 = false) :
    s.reaches (.complete ticket answer) = [] := by
  rw [reaches, activities, complete_of_stale s.pipeline ticket answer s.env h]
  rfl

theorem after_complete_of_stale (s : Session ε σ α ι) (ticket : Ticket)
    (answer : Except CompilerFailure String)
    (h : (s.pipeline.sequencer.settle ticket Target.all).1 = false) :
    s.after (.complete ticket answer) = s := by
  rw [after, complete_of_stale s.pipeline ticket answer s.env h]
  rfl

theorem sequencer_after_run (s : Session ε σ α ι) (source : String) :
    (s.after (.run source)).pipeline.sequencer =
      ((s.pipeline.sequencer.issue Target.all).2.settle (s.pipeline.sequencer.issue Target.all).1
        Target.all).2 :=
  fanOut_sequencer _ _ _

theorem sequencer_after_complete_of_current (s : Session ε σ α ι) (ticket : Ticket)
    (answer : Except CompilerFailure String)
    (h : (s.pipeline.sequencer.settle ticket Target.all).1 = true) :
    (s.after (.complete ticket answer)).pipeline.sequencer =
      (s.pipeline.sequencer.settle ticket Target.all).2 := by
  rw [after, complete_of_current s.pipeline ticket answer s.env h]
  exact fanOut_sequencer _ _ _

theorem config_after (s : Session ε σ α ι) (r : Request) :
    (s.after r).pipeline.config = s.pipeline.config := by
  cases r with
  | begin => rfl
  | run source => exact fanOut_config _ _ _
  | complete ticket answer =>
      cases settled : (s.pipeline.sequencer.settle ticket Target.all).1 with
      | false => rw [after_complete_of_stale s ticket answer settled]
      | true =>
          rw [after, complete_of_current s.pipeline ticket answer s.env settled]
          exact fanOut_config _ _ _

inductive Reply where
  | opened (ticket : Ticket)
  | ended (result : Except PipelineError Outcome)

def reply (s : Session ε σ α ι) : Request → Reply
  | .begin => .opened s.pipeline.begin.1
  | .run source => .ended ((s.pipeline.run source s.env).value.2.map .applied)
  | .complete ticket answer => .ended (s.pipeline.complete ticket answer s.env).value.2

/-- All that a request can do: open a ticket, be dropped, or bring an answer to the views. -/
inductive Steps (s : Session ε σ α ι) : Request → Reply → List (Call ι) → Session ε σ α ι → Prop
  | opened :
      Steps s .begin (.opened s.pipeline.begin.1) []
        { s with pipeline := s.pipeline.begin.2.1 }
  | dropped {ticket : Ticket} {answer : Except CompilerFailure String}
      (stale : (s.pipeline.sequencer.settle ticket Target.all).1 = false) :
      Steps s (.complete ticket answer) (.ended (.ok .discarded)) [] s
  | ran {source : String} {cs : List (Call ι)} {next : Session ε σ α ι}
      {result : Except PipelineError Summary}
      (fans : FansOut s.pipeline s.views (Compiler.compile s.env source).2
        (Compiler.compile s.env source).1 cs next.pipeline next.env next.views result) :
      Steps s (.run source) (.ended (result.map .applied)) (.compile source :: cs) next
  | completed {ticket : Ticket} {answer : Except CompilerFailure String} {cs : List (Call ι)}
      {next : Session ε σ α ι} {result : Except PipelineError Summary}
      (current : (s.pipeline.sequencer.settle ticket Target.all).1 = true)
      (fans : FansOut s.pipeline s.views s.env answer cs next.pipeline next.env next.views
        result) :
      Steps s (.complete ticket answer) (.ended (result.map .applied)) cs next

theorem steps_after (s : Session ε σ α ι) (r : Request) :
    s.Steps r (s.reply r) (calls (s.activities r)) (s.after r) := by
  cases r with
  | begin => exact .opened
  | run source =>
      obtain ⟨cs, hcs, fans⟩ := run_fansOut s.pipeline s.views s.env source
      rw [activities, hcs]
      exact .ran fans
  | complete ticket answer =>
      cases settled : (s.pipeline.sequencer.settle ticket Target.all).1 with
      | false =>
          rw [reply, activities, after_complete_of_stale s ticket answer settled,
            complete_of_stale s.pipeline ticket answer s.env settled]
          exact .dropped settled
      | true =>
          obtain ⟨result, hresult, fans⟩ :=
            complete_fansOut s.pipeline s.views s.env ticket answer settled
          rw [reply, activities, hresult]
          exact .completed settled fans

end Session

end GraphLens
