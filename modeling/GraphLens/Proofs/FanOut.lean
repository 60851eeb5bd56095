import GraphLens.Page.GraphCanvas
import GraphLens.Pipeline.Notice
import GraphLens.Pipeline.Views

namespace GraphLens

theorem GraphCache.lookup_eq_some_iff {ι : Type} (c : GraphCache ι) (spec : String) (image : ι) :
    c.lookup spec = some image ↔ c.entry = some ⟨spec, image⟩ := by
  obtain ⟨entry⟩ := c
  cases entry with
  | none => simp [lookup]
  | some held =>
      obtain ⟨heldSpec, heldImage⟩ := held
      by_cases h : heldSpec = spec
      · subst h
        simp [lookup, Option.filter]
      · simp [lookup, h]

theorem GraphCache.lookup_eq_none_iff {ι : Type} (c : GraphCache ι) (spec : String) :
    c.lookup spec = none ↔ ∀ image, c.entry ≠ some ⟨spec, image⟩ := by
  simp only [ne_eq, ← lookup_eq_some_iff, Option.eq_none_iff_forall_ne_some]

namespace Pipeline

variable {ε σ α ι : Type}

def Call.reachesView : Call ι → Bool
  | .compile _ | .render _ => false
  | .clear _ | .append _ _ | .setContent _ _ | .notify _ _ => true

def Call.asksRenderer : Call ι → Bool
  | .render _ => true
  | .compile _ | .clear _ | .append _ _ | .setContent _ _ | .notify _ _ => false

@[simp] theorem calls_nil : calls ([] : List (Activity ι)) = [] := rfl

@[simp] theorem calls_cons_call (c : Call ι) (as : List (Activity ι)) :
    calls (.call c :: as) = c :: calls as := rfl

@[simp] theorem calls_cons_notice (n : Notice) (as : List (Activity ι)) :
    calls (.notice n :: as) = calls as := rfl

@[simp] theorem calls_append (as bs : List (Activity ι)) :
    calls (as ++ bs) = calls as ++ calls bs := List.filterMap_append

section Preparing

variable [GraphRenderer ε ι]

/-- How a picture of `spec` is come by: it is held by the cache, or else the renderer is asked,
which may fail. The list has the specifications that the renderer was asked for. -/
inductive Pictures (cache : GraphCache ι) (spec : String) (env : ε) :
    ε → List String → Except RenderFailure (Picture ι) → Prop
  | reused {image : ι} (held : cache.entry = some ⟨spec, image⟩) :
      Pictures cache spec env env [] (.ok ⟨image, false⟩)
  | rendered {image : ι} {env' : ε} (missing : ∀ other, cache.entry ≠ some ⟨spec, other⟩)
      (made : GraphRenderer.render env spec = (.ok image, env')) :
      Pictures cache spec env env' [spec] (.ok ⟨image, true⟩)
  | failed {failure : RenderFailure} {env' : ε}
      (missing : ∀ other, cache.entry ≠ some ⟨spec, other⟩)
      (lost : GraphRenderer.render env spec = (.error failure, env')) :
      Pictures cache spec env env' [spec] (.error failure)

/-- Where an attempt to show an answer can end: in four failures, or with both pictures. -/
inductive Prepares (astCache ptreeCache : GraphCache ι) (env : ε) :
    Except CompilerFailure String → ε → List String → Except PipelineError (Prepared ι) → Prop
  | refused (failure : CompilerFailure) :
      Prepares astCache ptreeCache env (.error failure) env [] (.error (.compiler failure))
  | malformed {raw : String} {fault : Json.Fault}
      (unread : CompileResult.ofJson raw = .error fault) :
      Prepares astCache ptreeCache env (.ok raw) env [] (.error (.malformed fault))
  | astFailed {raw : String} {r : CompileResult} {failure : RenderFailure} {env' : ε}
      {specs : List String} (read : CompileResult.ofJson raw = .ok r)
      (first : Pictures astCache r.ast env env' specs (.error failure)) :
      Prepares astCache ptreeCache env (.ok raw) env' specs (.error (.render .ast failure))
  | ptreeFailed {raw : String} {r : CompileResult} {ast : Picture ι} {failure : RenderFailure}
      {env₁ env₂ : ε} {specs₁ specs₂ : List String} (read : CompileResult.ofJson raw = .ok r)
      (first : Pictures astCache r.ast env env₁ specs₁ (.ok ast))
      (second : Pictures ptreeCache r.ptree env₁ env₂ specs₂ (.error failure)) :
      Prepares astCache ptreeCache env (.ok raw) env₂ (specs₁ ++ specs₂)
        (.error (.render .ptree failure))
  | ready {raw : String} {r : CompileResult} {ast ptree : Picture ι} {env₁ env₂ : ε}
      {specs₁ specs₂ : List String} (read : CompileResult.ofJson raw = .ok r)
      (first : Pictures astCache r.ast env env₁ specs₁ (.ok ast))
      (second : Pictures ptreeCache r.ptree env₁ env₂ specs₂ (.ok ptree)) :
      Prepares astCache ptreeCache env (.ok raw) env₂ (specs₁ ++ specs₂) (.ok ⟨r, ast, ptree⟩)

theorem picture_pictures (cache : GraphCache ι) (spec : String) (env : ε) :
    ∃ specs, calls (picture cache spec env).activities = specs.map .render ∧
      Pictures cache spec env (picture cache spec env).env specs
        (picture cache spec env).value := by
  cases held : cache.lookup spec with
  | some image =>
      refine ⟨[], ?_, ?_⟩
      · simp [picture, held]
      · simpa only [picture, held] using .reused ((cache.lookup_eq_some_iff spec image).mp held)
  | none =>
      have missing := (cache.lookup_eq_none_iff spec).mp held
      refine ⟨[spec], by simp [picture, held], ?_⟩
      cases asked : GraphRenderer.render env spec with
      | mk result env' =>
          cases result with
          | error failure => simpa only [picture, held, asked] using .failed missing asked
          | ok image => simpa only [picture, held, asked] using .rendered missing asked

theorem prepare_prepares (p : Pipeline ι) (answer : Except CompilerFailure String) (env : ε) :
    ∃ specs, calls (p.prepare answer env).activities = specs.map .render ∧
      Prepares p.astCache p.ptreeCache env answer (p.prepare answer env).env specs
        (p.prepare answer env).value := by
  cases answer with
  | error failure => exact ⟨[], rfl, .refused failure⟩
  | ok raw =>
      cases read : CompileResult.ofJson raw with
      | error fault =>
          refine ⟨[], ?_, ?_⟩
          · simp [prepare, read]
          · simpa only [prepare, read] using .malformed read
      | ok r =>
          obtain ⟨specs₁, hc₁, hp₁⟩ := picture_pictures p.astCache r.ast env
          cases first : (picture p.astCache r.ast env).value with
          | error failure =>
              rw [first] at hp₁
              refine ⟨specs₁, ?_, ?_⟩
              · simpa only [prepare, read, first] using hc₁
              · simpa only [prepare, read, first] using .astFailed read hp₁
          | ok ast =>
              rw [first] at hp₁
              obtain ⟨specs₂, hc₂, hp₂⟩ :=
                picture_pictures p.ptreeCache r.ptree (picture p.astCache r.ast env).env
              have hc : calls ((picture p.astCache r.ast env).activities ++
                  (picture p.ptreeCache r.ptree (picture p.astCache r.ast env).env).activities) =
                  (specs₁ ++ specs₂).map .render := by
                rw [calls_append, hc₁, hc₂, List.map_append]
              cases second :
                  (picture p.ptreeCache r.ptree (picture p.astCache r.ast env).env).value with
              | error failure =>
                  rw [second] at hp₂
                  refine ⟨specs₁ ++ specs₂, ?_, ?_⟩
                  · simpa only [prepare, read, first, second] using hc
                  · simpa only [prepare, read, first, second] using .ptreeFailed read hp₁ hp₂
              | ok ptree =>
                  rw [second] at hp₂
                  refine ⟨specs₁ ++ specs₂, ?_, ?_⟩
                  · simpa only [prepare, read, first, second] using hc
                  · simpa only [prepare, read, first, second] using .ready read hp₁ hp₂

theorem prepare_of_second_failed {p : Pipeline ι} {raw : String} {r : CompileResult} {image : ι}
    {failure : RenderFailure} {env env₁ env₂ : ε} (read : CompileResult.ofJson raw = .ok r)
    (astMissing : p.astCache.lookup r.ast = none)
    (ptreeMissing : p.ptreeCache.lookup r.ptree = none)
    (first : GraphRenderer.render env r.ast = (.ok image, env₁))
    (second : GraphRenderer.render env₁ r.ptree = (.error failure, env₂)) :
    p.prepare (.ok raw) env =
      ⟨env₂, [.call (.render r.ast), .call (.render r.ptree)],
        .error (.render .ptree failure)⟩ := by
  simp [prepare, read, picture, astMissing, ptreeMissing, first, second, Except.map]

/-- A cache that is given a picture holds it, be it a new one or its own. -/
theorem recache_entry {cache : GraphCache ι} {spec : String} {env env' : ε} {specs : List String}
    {picture : Picture ι} (h : Pictures cache spec env env' specs (.ok picture)) :
    (recache cache spec picture).entry = some ⟨spec, picture.image⟩ := by
  cases h with
  | reused held => exact held
  | rendered missing made => rfl

theorem Prepares.recached {astCache ptreeCache : GraphCache ι} {env env' : ε}
    {answer : Except CompilerFailure String} {specs : List String} {r : Prepared ι}
    (h : Prepares astCache ptreeCache env answer env' specs (.ok r)) :
    (recache astCache r.result.ast r.ast).entry = some ⟨r.result.ast, r.ast.image⟩ ∧
      (recache ptreeCache r.result.ptree r.ptree).entry =
        some ⟨r.result.ptree, r.ptree.image⟩ := by
  cases h with
  | ready read first second => exact ⟨recache_entry first, recache_entry second⟩

end Preparing

/-- The calls that fill every view with a result, and then say so. -/
def filling (config : PipelineConfig) (r : Prepared ι) : List (Call ι) :=
  .clear .tokens :: r.result.tokens.map (.append .tokens) ++
    [.setContent .ast r.ast.image, .setContent .ptree r.ptree.image] ++
    .clear .analysis :: r.result.analysis.map (.append .analysis) ++
    [.notify .success config.successMessage]

theorem calls_replaceList (list : ListKind) (entries : List String) :
    calls (replaceList list entries : List (Activity ι)) =
      .clear list :: entries.map (.append list) := by
  simp only [replaceList, calls_cons_call, List.cons.injEq, true_and]
  induction entries with
  | nil => rfl
  | cons entry entries ih => simp [ih]

theorem calls_showing (config : PipelineConfig) (r : Prepared ι) :
    calls (showing config r) = filling config r := by
  simp [showing, filling, calls_replaceList]

theorem calls_failing (config : PipelineConfig) (error : PipelineError) :
    calls (failing config error : List (Activity ι)) =
      [.notify .failure config.failureMessage] := rfl

end Pipeline

namespace Views

open Pipeline

variable {σ α ι : Type} [Scalar α] [DrawingSurface σ α ι]

theorem performAll_eq_foldl (v : Views σ α ι) (as : List (Activity ι)) :
    v.performAll as = (calls as).foldl perform v := by
  induction as generalizing v with
  | nil => rfl
  | cons a as ih =>
      cases a with
      | call c => exact ih (v.perform c)
      | notice n => exact ih v

theorem foldl_render (v : Views σ α ι) (specs : List String) :
    (specs.map Call.render).foldl perform v = v := by
  induction specs with
  | nil => rfl
  | cons spec specs ih => exact ih

theorem foldl_append (v : Views σ α ι) (list : ListKind) (entries : List String) :
    (entries.map (Call.append list)).foldl perform v =
      v.mapList list fun l => ⟨l.entries ++ entries⟩ := by
  induction entries generalizing v with
  | nil => cases list <;> simp [mapList]
  | cons entry entries ih =>
      rw [List.map_cons, List.foldl_cons, ih]
      cases list <;> simp [perform, mapList, TextList.append]

def filled (v : Views σ α ι) (config : PipelineConfig) (r : Prepared ι) : Views σ α ι where
  tokens := ⟨r.result.tokens⟩
  analysis := ⟨r.result.analysis⟩
  ast := { v.ast with viewport := v.ast.viewport.setContent r.ast.image }
  ptree := { v.ptree with viewport := v.ptree.viewport.setContent r.ptree.image }
  statuses := v.statuses ++ [(.success, config.successMessage)]

theorem foldl_filling (v : Views σ α ι) (config : PipelineConfig) (r : Prepared ι) :
    (filling config r).foldl perform v = v.filled config r := by
  simp only [filling, List.foldl_append, List.foldl_cons, List.foldl_nil, foldl_append,
    List.cons_append]
  simp [perform, mapList, TextList.clear, TextList.empty, withPane, pane, filled,
    Pane.perform]

end Views

namespace Pipeline

variable {ε σ α ι : Type} [Scalar α] [DrawingSurface σ α ι] [GraphRenderer ε ι]

/-- The two things that an answer of the compiler can come to, for the calls that are made, the
caches, the views and the result. -/
inductive FansOut (p : Pipeline ι) (v : Views σ α ι) (env : ε)
    (answer : Except CompilerFailure String) : List (Call ι) → Pipeline ι → ε → Views σ α ι →
    Except PipelineError Summary → Prop
  | shown {r : Prepared ι} {env' : ε} {specs : List String} {p' : Pipeline ι}
      (ready : Prepares p.astCache p.ptreeCache env answer env' specs (.ok r))
      (ast : p'.astCache.entry = some ⟨r.result.ast, r.ast.image⟩)
      (ptree : p'.ptreeCache.entry = some ⟨r.result.ptree, r.ptree.image⟩) :
      FansOut p v env answer (specs.map .render ++ filling p.config r) p' env'
        (v.filled p.config r) (.ok r.summary)
  | withheld {error : PipelineError} {env' : ε} {specs : List String} {p' : Pipeline ι}
      (failed : Prepares p.astCache p.ptreeCache env answer env' specs (.error error))
      (ast : p'.astCache = p.astCache) (ptree : p'.ptreeCache = p.ptreeCache) :
      FansOut p v env answer
        (specs.map .render ++ [.notify .failure p.config.failureMessage]) p' env'
        { v with statuses := v.statuses ++ [(.failure, p.config.failureMessage)] } (.error error)

theorem fanOut_fansOut (p : Pipeline ι) (sequencer : RequestSequencer) (v : Views σ α ι) (env : ε)
    (answer : Except CompilerFailure String) :
    let w := fanOut { p with sequencer } answer env
    FansOut p v env answer (calls w.activities) w.value.1 w.env (v.performAll w.activities)
      w.value.2 := by
  obtain ⟨specs, hc, hp⟩ := prepare_prepares { p with sequencer } answer env
  simp only [Views.performAll_eq_foldl, fanOut]
  cases h : (prepare { p with sequencer } answer env).value with
  | error error =>
      rw [h] at hp
      simp only [calls_append, hc, calls_failing, List.foldl_append, Views.foldl_render]
      exact .withheld hp rfl rfl
  | ok r =>
      rw [h] at hp
      simp only [calls_append, hc, calls_showing, List.foldl_append, Views.foldl_render,
        Views.foldl_filling]
      exact .shown hp hp.recached.1 hp.recached.2

/-- No call to a view stands before a call to the renderer. -/
def RendersFirst (cs : List (Call ι)) : Prop :=
  cs.Pairwise fun a b => a.reachesView = true → b.asksRenderer = false

omit [GraphRenderer ε ι] in
theorem rendersFirst_append (specs : List String) (shown : List (Call ι))
    (h : ∀ c ∈ shown, c.asksRenderer = false) : RendersFirst (specs.map .render ++ shown) := by
  refine List.pairwise_append.mpr ⟨?_, ?_, fun _ _ b hb _ => h b hb⟩
  · rw [List.pairwise_map]
    exact List.pairwise_of_forall fun _ _ reaches => nomatch reaches
  · exact List.pairwise_of_forall_mem_list fun _ _ b hb _ => h b hb

theorem asksRenderer_filling (config : PipelineConfig) (r : Prepared ι) :
    ∀ c ∈ filling config r, c.asksRenderer = false := by
  simp only [filling, List.mem_append, List.mem_cons, List.mem_map, List.not_mem_nil, or_false]
  rintro c ((((rfl | ⟨_, _, rfl⟩) | rfl | rfl) | rfl | ⟨_, _, rfl⟩) | rfl) <;> rfl

theorem FansOut.rendersFirst {p p' : Pipeline ι} {v v' : Views σ α ι} {env env' : ε}
    {answer : Except CompilerFailure String} {cs : List (Call ι)}
    {result : Except PipelineError Summary} (h : FansOut p v env answer cs p' env' v' result) :
    RendersFirst cs := by
  cases h with
  | shown ready ast ptree => exact rendersFirst_append _ _ (asksRenderer_filling _ _)
  | withheld failed ast ptree => exact rendersFirst_append _ _ (by simp [Call.asksRenderer])

theorem FansOut.reaches_status {p p' : Pipeline ι} {v v' : Views σ α ι} {env env' : ε}
    {answer : Except CompilerFailure String} {cs : List (Call ι)}
    {result : Except PipelineError Summary} (h : FansOut p v env answer cs p' env' v' result) :
    ∃ status message, .notify status message ∈ cs := by
  cases h with
  | shown ready ast ptree => exact ⟨.success, p.config.successMessage, by simp [filling]⟩
  | withheld failed ast ptree => exact ⟨.failure, p.config.failureMessage, by simp⟩

theorem fanOut_sequencer (p : Pipeline ι) (answer : Except CompilerFailure String) (env : ε) :
    (p.fanOut answer env).value.1.sequencer = p.sequencer := by
  cases h : (p.prepare answer env).value <;> simp only [fanOut, h, commit]

theorem fanOut_config (p : Pipeline ι) (answer : Except CompilerFailure String) (env : ε) :
    (p.fanOut answer env).value.1.config = p.config := by
  cases h : (p.prepare answer env).value <;> simp only [fanOut, h, commit]

theorem complete_of_stale (p : Pipeline ι) (ticket : Ticket)
    (answer : Except CompilerFailure String) (env : ε)
    (h : (p.sequencer.settle ticket Target.all).1 = false) :
    p.complete ticket answer env =
      ⟨env, [.notice (.started ticket none), .notice (.discarded p.sequencer.latest)], p,
        .ok .discarded⟩ := by
  unfold complete
  split
  · rfl
  · simp_all

theorem complete_of_current (p : Pipeline ι) (ticket : Ticket)
    (answer : Except CompilerFailure String) (env : ε)
    (h : (p.sequencer.settle ticket Target.all).1 = true) :
    p.complete ticket answer env =
      let work :=
        fanOut { p with sequencer := (p.sequencer.settle ticket Target.all).2 } answer env
      ⟨work.env, .notice (.started ticket none) :: work.activities, work.value.1,
        work.value.2.map .applied⟩ := by
  unfold complete
  split
  · simp_all
  · simp_all

theorem complete_discards_iff (p : Pipeline ι) (ticket : Ticket)
    (answer : Except CompilerFailure String) (env : ε) :
    (p.complete ticket answer env).value.2 = .ok .discarded ↔
      (p.sequencer.settle ticket Target.all).1 = false := by
  cases settled : (p.sequencer.settle ticket Target.all).1 with
  | false => simp [complete_of_stale p ticket answer env settled]
  | true =>
      have applied (result : Except PipelineError Summary) :
          result.map Outcome.applied ≠ .ok .discarded := by
        cases result <;> simp [Except.map]
      simp [complete_of_current p ticket answer env settled, applied]

theorem complete_of_second_failed {p : Pipeline ι} {ticket : Ticket} {raw : String}
    {r : CompileResult} {image : ι} {failure : RenderFailure} {env env₁ env₂ : ε}
    (settled : (p.sequencer.settle ticket Target.all).1 = true)
    (read : CompileResult.ofJson raw = .ok r) (astMissing : p.astCache.lookup r.ast = none)
    (ptreeMissing : p.ptreeCache.lookup r.ptree = none)
    (first : GraphRenderer.render env r.ast = (.ok image, env₁))
    (second : GraphRenderer.render env₁ r.ptree = (.error failure, env₂)) :
    p.complete ticket (.ok raw) env =
      ⟨env₂, .notice (.started ticket none) :: .call (.render r.ast) :: .call (.render r.ptree) ::
          failing p.config (.render .ptree failure),
        { p with sequencer := (p.sequencer.settle ticket Target.all).2 },
        .error (.render .ptree failure)⟩ := by
  have prepared :
      prepare { p with sequencer := (p.sequencer.settle ticket Target.all).2 } (.ok raw) env = _ :=
    prepare_of_second_failed read astMissing ptreeMissing first second
  rw [complete_of_current p ticket _ env settled]
  simp only [fanOut, prepared]
  rfl

theorem run_fansOut [Compiler ε] (p : Pipeline ι) (v : Views σ α ι) (env : ε) (source : String) :
    let w := p.run source env
    let compiled := Compiler.compile env source
    ∃ cs, calls w.activities = .compile source :: cs ∧
      FansOut p v compiled.2 compiled.1 cs w.value.1 w.env (v.performAll w.activities)
        w.value.2 := by
  have h := fanOut_fansOut p
    ((p.sequencer.issue Target.all).2.settle (p.sequencer.issue Target.all).1 Target.all).2 v
    (Compiler.compile env source).2 (Compiler.compile env source).1
  exact ⟨_, rfl, h⟩

theorem complete_fansOut (p : Pipeline ι) (v : Views σ α ι) (env : ε) (ticket : Ticket)
    (answer : Except CompilerFailure String)
    (h : (p.sequencer.settle ticket Target.all).1 = true) :
    let w := p.complete ticket answer env
    ∃ result, w.value.2 = result.map .applied ∧
      FansOut p v env answer (calls w.activities) w.value.1 w.env (v.performAll w.activities)
        result := by
  rw [complete_of_current p ticket answer env h]
  exact ⟨_, rfl, fanOut_fansOut p (p.sequencer.settle ticket Target.all).2 v env answer⟩

/-- A run, or a completion that is not discarded, has one of two traces behind the calls to the
compiler and the renderer. Either all views are filled, in order, and the caches hold what is on
show; or the status says that it failed, and neither a view nor a cache has changed. -/
theorem fills_every_view_or_none [Compiler ε] (p : Pipeline ι) (v : Views σ α ι) (env : ε) :
    (∀ source,
      let w := p.run source env
      let compiled := Compiler.compile env source
      RendersFirst (calls w.activities) ∧
      ∃ cs, calls w.activities = .compile source :: cs ∧
        FansOut p v compiled.2 compiled.1 cs w.value.1 w.env (v.performAll w.activities)
          w.value.2) ∧
    (∀ ticket answer,
      let w := p.complete ticket answer env
      w.value.2 ≠ .ok .discarded →
      RendersFirst (calls w.activities) ∧
      ∃ result, w.value.2 = result.map .applied ∧
        FansOut p v env answer (calls w.activities) w.value.1 w.env (v.performAll w.activities)
          result) := by
  refine ⟨fun source => ?_, fun ticket answer => ?_⟩
  · obtain ⟨cs, hcs, h⟩ := run_fansOut p v env source
    refine ⟨?_, cs, hcs, h⟩
    rw [hcs]
    exact List.pairwise_cons.mpr ⟨fun _ _ reaches => (nomatch reaches), h.rendersFirst⟩
  · intro w hw
    rw [Ne, complete_discards_iff, Bool.not_eq_false] at hw
    obtain ⟨result, hresult, h⟩ := complete_fansOut p v env ticket answer hw
    exact ⟨h.rendersFirst, result, hresult, h⟩

theorem second_graph_fails_fills_every_view_or_none :
    let page : Page :=
      .ofScript
        (fun _ spec => if spec = "b" then .throws (.text "no") else .returns (.text "<svg/>"))
        (.ok ⟨none, false, false, none⟩)
    let pane : Pane CanvasContext Float Drawable := .ofSurface ⟨300, 200, #[]⟩ .standard
    let v : Views CanvasContext Float Drawable := ⟨⟨["old"]⟩, .empty, pane, pane, []⟩
    let p : Pipeline Drawable := initial.begin.2.1
    let raw := "\x7b\"tokens\":[],\"ast\":\"a\",\"ptree\":\"b\",\"analysis\":[]\x7d"
    let w := p.complete ⟨1⟩ (.ok raw) page
    w.value.2 ≠ .ok .discarded ∧ RendersFirst (calls w.activities) ∧
      calls w.activities = [.render "a", .render "b", .notify .failure p.config.failureMessage] ∧
      ∃ failure, w.value.2 = .error (.render .ptree failure) ∧
        FansOut p v page (.ok raw) (calls w.activities) w.value.1 w.env
          (v.performAll w.activities) (.error (.render .ptree failure)) := by
  intro page pane v p raw w
  have settled : (p.sequencer.settle ⟨1⟩ Target.all).1 = true := rfl
  have counts : w.value.2 ≠ .ok .discarded := by
    rw [Ne, complete_discards_iff, settled]
    exact Bool.noConfusion
  obtain ⟨renders, result, hresult, hfans⟩ :=
    (fills_every_view_or_none p v page).2 ⟨1⟩ (.ok raw) counts
  have reads : (CompileResult.ofJson raw).toOption = some ⟨[], "a", "b", []⟩ := by decide +kernel
  have draws : (GraphRenderer.render page "a").1.isOk = true := by decide +kernel
  have loses : (GraphRenderer.render (GraphRenderer.render page "a").2 "b").1.isOk = false := by
    decide +kernel
  cases read : CompileResult.ofJson raw with
  | error fault => simp [read, Except.toOption] at reads
  | ok r =>
      obtain rfl : r = ⟨[], "a", "b", []⟩ := by simpa [read, Except.toOption] using reads
      rcases first : GraphRenderer.render page "a" with ⟨_ | image, page₁⟩
      · simp [first, Except.isOk, Except.toBool] at draws
      · rcases second : GraphRenderer.render page₁ "b" with ⟨failure | _, page₂⟩
        · have hw : w = _ := complete_of_second_failed settled read rfl rfl first second
          have hcalls : calls w.activities = _ := congrArg (calls ·.activities) hw
          have hvalue : w.value.2 = .error (.render .ptree failure) := congrArg (·.value.2) hw
          cases result with
          | ok summary => cases hvalue.symm.trans hresult
          | error error =>
              cases hvalue.symm.trans hresult
              exact ⟨counts, renders, hcalls, failure, hvalue, hfans⟩
        · simp [first, second, Except.isOk, Except.toBool] at loses

end Pipeline

end GraphLens
