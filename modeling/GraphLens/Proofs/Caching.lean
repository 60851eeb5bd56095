import GraphLens.Proofs.Session
import GraphLens.Surface.Recording

namespace GraphLens

open Pipeline

/-- A compiler and a renderer, each with a state of its own. -/
structure Tools (γ ρ : Type) where
  compiler : γ
  renderer : ρ

namespace Tools

variable {γ ρ ι : Type}

instance [Compiler γ] : Compiler (Tools γ ρ) where
  compile t source :=
    let (answer, compiler) := Compiler.compile t.compiler source
    (answer, { t with compiler })

instance [GraphRenderer ρ ι] : GraphRenderer (Tools γ ρ) ι where
  render t spec :=
    let (result, renderer) := GraphRenderer.render t.renderer spec
    (result, { t with renderer })

end Tools

instance : Compiler (String → Except CompilerFailure String) where
  compile answer source := (answer source, answer)

/-- A renderer that draws by `f`, and knows what it was asked for, newest first. -/
structure Plotter {ι : Type} (f : String → Except RenderFailure ι) where
  asked : List String

instance {ι : Type} (f : String → Except RenderFailure ι) : GraphRenderer (Plotter f) ι where
  render p spec := (f spec, ⟨spec :: p.asked⟩)

namespace Pipeline

variable {γ ρ σ α ι : Type} [GraphRenderer ρ ι]

/-- Every answer of the renderer is `f` of the specification. -/
def Draws (ρ : Type) [GraphRenderer ρ ι] (f : String → Except RenderFailure ι) : Prop :=
  ∀ (renderer : ρ) spec, (GraphRenderer.render renderer spec).1 = f spec

/-- What an answer comes to if every picture is drawn by `f`. -/
def drawn (f : String → Except RenderFailure ι) :
    Except CompilerFailure String → Except PipelineError (CompileResult × ι × ι)
  | .error failure => .error (.compiler failure)
  | .ok raw =>
    match CompileResult.ofJson raw with
    | .error fault => .error (.malformed fault)
    | .ok r =>
      match f r.ast, f r.ptree with
      | .error failure, _ => .error (.render .ast failure)
      | .ok _, .error failure => .error (.render .ptree failure)
      | .ok ast, .ok ptree => .ok (r, ast, ptree)

def Prepared.parts (r : Prepared ι) : CompileResult × ι × ι :=
  (r.result, r.ast.image, r.ptree.image)

/-- The cache has nothing but what `f` draws. -/
def Faithful (f : String → Except RenderFailure ι) (cache : GraphCache ι) : Prop :=
  ∀ spec image, cache.entry = some ⟨spec, image⟩ → f spec = .ok image

variable {f : String → Except RenderFailure ι} {cache astCache ptreeCache : GraphCache ι}
  {spec : String} {env env' : Tools γ ρ} {specs : List String}
  {answer : Except CompilerFailure String}

omit [GraphRenderer ρ ι] in
theorem draws_plotter (f : String → Except RenderFailure ι) : Draws (Plotter f) f :=
  fun _ _ => rfl

omit [GraphRenderer ρ ι] in
theorem faithful_empty : Faithful f .empty := nofun

theorem faithful_of_entry {image : ι} (held : cache.entry = some ⟨spec, image⟩)
    (h : f spec = .ok image) : Faithful f cache := by
  intro other otherImage hit
  obtain ⟨rfl, rfl⟩ := GraphImage.mk.inj (Option.some.inj (held.symm.trans hit))
  exact h

theorem render_eq_of_draws (hf : Draws ρ f) {result : Except RenderFailure ι}
    (made : GraphRenderer.render env spec = (result, env')) :
    f spec = result ∧ env'.compiler = env.compiler := by
  have hresult : (GraphRenderer.render env spec).1 = f spec := hf env.renderer spec
  have hcompiler : (GraphRenderer.render env spec).2.compiler = env.compiler := rfl
  rw [made] at hresult hcompiler
  exact ⟨hresult.symm, hcompiler⟩

theorem Pictures.images_eq {value : Except RenderFailure (Picture ι)} (hf : Draws ρ f)
    (h : Pictures cache spec env env' specs value) (held : Faithful f cache) :
    f spec = value.map (·.image) ∧ env'.compiler = env.compiler := by
  cases h with
  | reused hit => exact ⟨held _ _ hit, rfl⟩
  | rendered missing made => exact render_eq_of_draws hf made
  | failed missing lost => exact render_eq_of_draws hf lost

theorem Prepares.parts_eq {prepared : Except PipelineError (Prepared ι)} (hf : Draws ρ f)
    (h : Prepares astCache ptreeCache env answer env' specs prepared)
    (ast : Faithful f astCache) (ptree : Faithful f ptreeCache) :
    drawn f answer = prepared.map Prepared.parts ∧ env'.compiler = env.compiler := by
  cases h with
  | refused failure => exact ⟨rfl, rfl⟩
  | malformed unread => exact ⟨by rw [drawn, unread]; rfl, rfl⟩
  | astFailed read first =>
      obtain ⟨hast, hcompiler⟩ := first.images_eq hf ast
      exact ⟨by rw [drawn, read]; simp only [hast]; rfl, hcompiler⟩
  | ptreeFailed read first second | ready read first second =>
      obtain ⟨hast, hfirst⟩ := first.images_eq hf ast
      obtain ⟨hptree, hsecond⟩ := second.images_eq hf ptree
      exact ⟨by rw [drawn, read]; simp only [hast, hptree]; rfl, hsecond.trans hfirst⟩

theorem Prepares.images_eq {r : Prepared ι} (hf : Draws ρ f)
    (h : Prepares astCache ptreeCache env answer env' specs (.ok r))
    (ast : Faithful f astCache) (ptree : Faithful f ptreeCache) :
    f r.result.ast = .ok r.ast.image ∧ f r.result.ptree = .ok r.ptree.image := by
  cases h with
  | ready read first second => exact ⟨(first.images_eq hf ast).1, (second.images_eq hf ptree).1⟩

def Summary.plain (s : Summary) : Summary := { s with astRendered := false, ptreeRendered := false }

def Outcome.plain : Outcome → Outcome
  | .applied summary => .applied summary.plain
  | .discarded => .discarded

def others (cs : List (Call ι)) : List (Call ι) := cs.filter (!·.asksRenderer)

omit [GraphRenderer ρ ι] in
theorem others_render_append (specs : List String) {cs : List (Call ι)}
    (h : ∀ c ∈ cs, c.asksRenderer = false) : others (specs.map .render ++ cs) = cs := by
  have hcs : cs.filter (!·.asksRenderer) = cs := List.filter_eq_self.mpr (by simpa using h)
  have hspecs : (specs.map (.render : String → Call ι)).filter (!·.asksRenderer) = [] := by
    simp [Call.asksRenderer]
  rw [others, List.filter_append, hcs, hspecs, List.nil_append]

section

variable [Scalar α] [DrawingSurface σ α ι]

def presented (config : PipelineConfig) (v : Views σ α ι) :
    Except PipelineError (CompileResult × ι × ι) →
    List (Call ι) × Views σ α ι × Except PipelineError Summary
  | .ok (r, ast, ptree) =>
    let plain : Prepared ι := ⟨r, ⟨ast, false⟩, ⟨ptree, false⟩⟩
    (filling config plain, v.filled config plain, .ok plain.summary)
  | .error e =>
    ([.notify .failure config.failureMessage],
      { v with statuses := v.statuses ++ [(.failure, config.failureMessage)] }, .error e)

theorem FansOut.eq_presented (hf : Draws ρ f) {p p' : Pipeline ι} {v v' : Views σ α ι}
    {cs : List (Call ι)} {result : Except PipelineError Summary}
    (h : FansOut p v env answer cs p' env' v' result)
    (ast : Faithful f p.astCache) (ptree : Faithful f p.ptreeCache) :
    (others cs, v', result.map Summary.plain) = presented p.config v (drawn f answer) ∧
      env'.compiler = env.compiler ∧ Faithful f p'.astCache ∧ Faithful f p'.ptreeCache := by
  cases h with
  | @shown r _ specs _ ready astHeld ptreeHeld =>
      obtain ⟨hdrawn, hcompiler⟩ := ready.parts_eq hf ast ptree
      obtain ⟨hast, hptree⟩ := ready.images_eq hf ast ptree
      refine ⟨?_, hcompiler, faithful_of_entry astHeld hast, faithful_of_entry ptreeHeld hptree⟩
      rw [hdrawn, others_render_append _ (asksRenderer_filling _ _)]
      rfl
  | @withheld error _ specs _ failed astSame ptreeSame =>
      obtain ⟨hdrawn, hcompiler⟩ := failed.parts_eq hf ast ptree
      refine ⟨?_, hcompiler, astSame ▸ ast, ptreeSame ▸ ptree⟩
      rw [hdrawn, others_render_append _ (by simp [Call.asksRenderer])]
      rfl

omit [Scalar α] [DrawingSurface σ α ι] in
theorem Pictures.rendered_of_empty {picture : Picture ι}
    (h : Pictures .empty spec env env' specs (.ok picture)) : picture.rendered = true := by
  cases h with
  | reused hit => cases hit
  | rendered missing made => rfl

theorem FansOut.rendered_of_empty {p p' : Pipeline ι} {v v' : Views σ α ι} {cs : List (Call ι)}
    {summary : Summary} (h : FansOut p v env answer cs p' env' v' (.ok summary))
    (ast : p.astCache = .empty) (ptree : p.ptreeCache = .empty) :
    summary.astRendered = true ∧ summary.ptreeRendered = true := by
  cases h with
  | shown ready _ _ =>
      rw [ast, ptree] at ready
      cases ready with
      | ready read first second => exact ⟨first.rendered_of_empty, second.rendered_of_empty⟩

theorem FansOut.same (hf : Draws ρ f) {p p' q q' : Pipeline ι} {v v₁ v₂ : Views σ α ι}
    {env₁ env₁' env₂ env₂' : Tools γ ρ} {cs₁ cs₂ : List (Call ι)}
    {result₁ result₂ : Except PipelineError Summary}
    (h₁ : FansOut p v env₁ answer cs₁ p' env₁' v₁ result₁)
    (h₂ : FansOut q v env₂ answer cs₂ q' env₂' v₂ result₂) (config : p.config = q.config)
    (hp : Faithful f p.astCache ∧ Faithful f p.ptreeCache)
    (hq : Faithful f q.astCache ∧ Faithful f q.ptreeCache)
    (compiler : env₁.compiler = env₂.compiler) :
    result₁.map Summary.plain = result₂.map Summary.plain ∧ others cs₁ = others cs₂ ∧
      env₁'.compiler = env₂'.compiler ∧ v₁ = v₂ := by
  obtain ⟨hleft, hcompiler₁, _⟩ := h₁.eq_presented hf hp.1 hp.2
  obtain ⟨hright, hcompiler₂, _⟩ := h₂.eq_presented hf hq.1 hq.2
  rw [← config, ← hleft, Prod.mk.injEq, Prod.mk.injEq] at hright
  obtain ⟨hcalls, hviews, hresult⟩ := hright
  have hcompiler := hcompiler₁.trans (compiler.trans hcompiler₂.symm)
  exact ⟨hresult.symm, hcalls.symm, hcompiler, hviews.symm⟩

end

end Pipeline

namespace Session

variable {γ ρ σ α ι : Type} [Scalar α] [DrawingSurface σ α ι] [GraphRenderer ρ ι] [Compiler γ]
  {f : String → Except RenderFailure ι} {s t : Session (Tools γ ρ) σ α ι}

def Reply.plain : Reply → Reply
  | .opened ticket => .opened ticket
  | .ended result => .ended (result.map Outcome.plain)

theorem Reply.plain_ended (result : Except PipelineError Summary) :
    (Reply.ended (result.map .applied)).plain =
      .ended ((result.map Summary.plain).map .applied) := by
  cases result with
  | ok summary => rfl
  | error e => rfl

def forget (s : Session (Tools γ ρ) σ α ι) : Session (Tools γ ρ) σ α ι :=
  { s with pipeline := { s.pipeline with astCache := .empty, ptreeCache := .empty } }

def playAfresh (s : Session (Tools γ ρ) σ α ι) (log : List Request) : Session (Tools γ ρ) σ α ι :=
  log.foldl (fun s r => s.forget.after r) s

structure FaithfulTo (f : String → Except RenderFailure ι) (s : Session (Tools γ ρ) σ α ι) :
    Prop where
  ast : Faithful f s.pipeline.astCache
  ptree : Faithful f s.pipeline.ptreeCache

/-- Two sessions that differ only in their caches and in the state of the renderer. -/
structure Alike (s t : Session (Tools γ ρ) σ α ι) : Prop where
  config : s.pipeline.config = t.pipeline.config
  sequencer : s.pipeline.sequencer = t.pipeline.sequencer
  compiler : s.env.compiler = t.env.compiler
  views : s.views = t.views

omit [Scalar α] [DrawingSurface σ α ι] [GraphRenderer ρ ι] [Compiler γ] in
theorem faithfulTo_forget (s : Session (Tools γ ρ) σ α ι) : s.forget.FaithfulTo f :=
  ⟨faithful_empty, faithful_empty⟩

omit [Scalar α] [DrawingSurface σ α ι] [GraphRenderer ρ ι] [Compiler γ] in
theorem Alike.forget (h : s.Alike t) : s.Alike t.forget :=
  ⟨h.config, h.sequencer, h.compiler, h.views⟩

theorem FaithfulTo.after (hf : Draws ρ f) (h : s.FaithfulTo f) (r : Request) :
    (s.after r).FaithfulTo f := by
  have hsteps := s.steps_after r
  generalize s.reply r = reply, calls (s.activities r) = cs, s.after r = next at hsteps ⊢
  cases hsteps with
  | opened => exact ⟨h.ast, h.ptree⟩
  | dropped stale => exact h
  | ran fans | completed current fans =>
      obtain ⟨_, _, ast, ptree⟩ := fans.eq_presented hf h.ast h.ptree
      exact ⟨ast, ptree⟩

theorem sequencer_after_congr (h : s.pipeline.sequencer = t.pipeline.sequencer) (r : Request) :
    (s.after r).pipeline.sequencer = (t.after r).pipeline.sequencer := by
  cases r with
  | begin => exact congrArg (fun q => (q.issue Target.all).2) h
  | run source => rw [sequencer_after_run, sequencer_after_run, h]
  | complete ticket answer =>
      cases settled : (s.pipeline.sequencer.settle ticket Target.all).1 with
      | false =>
          rw [after_complete_of_stale s ticket answer settled,
            after_complete_of_stale t ticket answer (h ▸ settled), h]
      | true =>
          rw [sequencer_after_complete_of_current s ticket answer settled,
            sequencer_after_complete_of_current t ticket answer (h ▸ settled), h]

/-- What is seen of a request from outside, but for the renderer. -/
structure SameStep (s t : Session (Tools γ ρ) σ α ι) (r : Request) : Prop where
  reply : (s.reply r).plain = (t.reply r).plain
  calls : others (calls (s.activities r)) = others (calls (t.activities r))
  after : (s.after r).Alike (t.after r)

omit [Scalar α] [DrawingSurface σ α ι] [GraphRenderer ρ ι] in
theorem compile_congr (h : s.env.compiler = t.env.compiler) (source : String) :
    (Compiler.compile s.env source).1 = (Compiler.compile t.env source).1 ∧
      (Compiler.compile s.env source).2.compiler = (Compiler.compile t.env source).2.compiler :=
  ⟨congrArg (fun c : γ => (Compiler.compile c source).1) h,
    congrArg (fun c : γ => (Compiler.compile c source).2) h⟩

theorem Alike.sameStep (hf : Draws ρ f) (h : s.Alike t) (hs : s.FaithfulTo f)
    (ht : t.FaithfulTo f) (r : Request) : s.SameStep t r := by
  have hsteps := s.steps_after r
  have htsteps := t.steps_after r
  have hsequencer := sequencer_after_congr h.sequencer r
  have hconfig : (s.after r).pipeline.config = (t.after r).pipeline.config := by
    rw [s.config_after, t.config_after, h.config]
  suffices (s.reply r).plain = (t.reply r).plain ∧
      others (calls (s.activities r)) = others (calls (t.activities r)) ∧
      (s.after r).env.compiler = (t.after r).env.compiler ∧
      (s.after r).views = (t.after r).views from
    ⟨this.1, this.2.1, ⟨hconfig, hsequencer, this.2.2.1, this.2.2.2⟩⟩
  generalize s.reply r = reply₁, calls (s.activities r) = cs₁, s.after r = next₁ at hsteps ⊢
  generalize t.reply r = reply₂, calls (t.activities r) = cs₂, t.after r = next₂ at htsteps ⊢
  -- The sequencers agree, so neither session drops what the other one takes.
  cases hsteps with
  | opened =>
      cases htsteps with
      | opened =>
          have hticket : s.pipeline.begin.1 = t.pipeline.begin.1 :=
            congrArg (fun q => (q.issue Target.all).1) h.sequencer
          exact ⟨congrArg Reply.opened hticket, rfl, h.compiler, h.views⟩
  | dropped stale =>
      cases htsteps with
      | dropped stale' => exact ⟨rfl, rfl, h.compiler, h.views⟩
      | completed current' fans' =>
          rw [← h.sequencer, stale] at current'
          cases current'
  | ran fans =>
      cases htsteps with
      | ran fans' =>
          obtain ⟨hanswer, hcompiler⟩ := compile_congr h.compiler _
          rw [h.views, hanswer] at fans
          obtain ⟨hresult, hcalls, hrest⟩ :=
            fans.same hf fans' h.config ⟨hs.ast, hs.ptree⟩ ⟨ht.ast, ht.ptree⟩ hcompiler
          refine ⟨?_, congrArg (_ :: ·) hcalls, hrest⟩
          rw [Reply.plain_ended, Reply.plain_ended, hresult]
  | completed current fans =>
      cases htsteps with
      | dropped stale' =>
          rw [← h.sequencer, current] at stale'
          cases stale'
      | completed current' fans' =>
          rw [h.views] at fans
          obtain ⟨hresult, hcalls, hrest⟩ :=
            fans.same hf fans' h.config ⟨hs.ast, hs.ptree⟩ ⟨ht.ast, ht.ptree⟩ h.compiler
          refine ⟨?_, hcalls, hrest⟩
          rw [Reply.plain_ended, Reply.plain_ended, hresult]

theorem alike_play (hf : Draws ρ f) (h : s.Alike t) (hs : s.FaithfulTo f) (log : List Request) :
    (s.play log).Alike (t.playAfresh log) ∧ (s.play log).FaithfulTo f := by
  induction log generalizing s t with
  | nil => exact ⟨h, hs⟩
  | cons r log ih =>
      -- Forgetting leaves the two alike, and an empty cache is faithful whatever it was before.
      have hstep := h.forget.sameStep hf hs (faithfulTo_forget t) r
      exact ih hstep.after (hs.after hf r)

theorem rendered_of_forget {summary : Summary} {r : Request}
    (h : s.forget.reply r = .ended (.ok (.applied summary))) :
    summary.astRendered = true ∧ summary.ptreeRendered = true := by
  have fansOut {cs : List (Call ι)} {next : Session (Tools γ ρ) σ α ι} {env : Tools γ ρ}
      {answer : Except CompilerFailure String} {result : Except PipelineError Summary}
      (fans : FansOut s.forget.pipeline s.views env answer cs next.pipeline next.env next.views
        result)
      (hresult : Reply.ended (result.map .applied) = .ended (.ok (.applied summary))) :
      summary.astRendered = true ∧ summary.ptreeRendered = true := by
    cases result with
    | error e => cases hresult
    | ok summary' =>
        cases hresult
        exact fans.rendered_of_empty rfl rfl
  have hsteps := s.forget.steps_after r
  generalize s.forget.reply r = reply, calls (s.forget.activities r) = cs,
    s.forget.after r = next at hsteps h
  cases hsteps with
  | opened => cases h
  | dropped stale => cases h
  | ran fans => exact fansOut fans h
  | completed current fans => exact fansOut fans h

/-- If the renderer answers by the specification alone, a session and one that forgets its caches
before every request show the same in all views at any time, and a request to either gives the
same reply, but for which pictures are new, and makes the same calls, but for those to the
renderer. The one that forgets draws both graphs each time. -/
theorem caches_are_unobservable (hf : Draws ρ f) (config : PipelineConfig) (tools : Tools γ ρ)
    (views : Views σ α ι) (log : List Request) :
    let start := initial config tools views
    let cached := start.play log
    let fresh := (start.playAfresh log).forget
    cached.views = fresh.views ∧
    ∀ r, (cached.reply r).plain = (fresh.reply r).plain ∧
      others (calls (cached.activities r)) = others (calls (fresh.activities r)) ∧
      ∀ summary, fresh.reply r = .ended (.ok (.applied summary)) →
        summary.astRendered = true ∧ summary.ptreeRendered = true := by
  intro start cached fresh
  obtain ⟨halike, hfaithful⟩ := alike_play hf (t := start) ⟨rfl, rfl, rfl, rfl⟩
    ⟨faithful_empty, faithful_empty⟩ log
  refine ⟨halike.views, fun r => ?_⟩
  have hstep := halike.forget.sameStep hf hfaithful (faithfulTo_forget _) r
  exact ⟨hstep.reply, hstep.calls, fun summary => rendered_of_forget⟩

theorem third_run_is_unobservable :
    let f (spec : String) : Except RenderFailure (ImageHandle Float) :=
      if spec = "c" then .error ⟨"no"⟩ else .ok ⟨spec.length, ⟨120, 80⟩⟩
    let compiler (source : String) : Except CompilerFailure String :=
      .ok (CompileResult.toJson ⟨[source], "a", source, []⟩)
    let tools : Tools (String → Except CompilerFailure String) (Plotter f) := ⟨compiler, ⟨[]⟩⟩
    let pane : Pane (RecordingSurface Float) Float (ImageHandle Float) :=
      .ofSurface (.ofSize ⟨640, 480⟩) .standard
    let start := initial .standard tools ⟨.empty, .empty, pane, pane, []⟩
    let log : List Request := [.run "b", .run "c", .run "b"]
    let cached := start.play log
    let fresh := (start.playAfresh log).forget
    Draws (Plotter f) f ∧ cached.env.renderer.asked = ["c", "b", "a"] ∧
      fresh.env.renderer.asked = ["b", "a", "c", "a", "b", "a"] ∧ cached.views = fresh.views := by
  intro f compiler tools pane start log cached fresh
  have hf : Draws (Plotter f) f := draws_plotter f
  exact ⟨hf, by decide +kernel, by decide +kernel,
    (caches_are_unobservable hf .standard tools ⟨.empty, .empty, pane, pane, []⟩ log).1⟩

end Session

end GraphLens
