import GraphLens.Proofs.Session
import Mathlib.Data.List.Induction

namespace GraphLens

open Pipeline

namespace Pipeline

variable {ε σ α ι : Type}

def decoded : Except CompilerFailure String → Option CompileResult
  | .error _ => none
  | .ok raw => (CompileResult.ofJson raw).toOption

def asked (cs : List (Call ι)) : List String :=
  cs.filterMap fun
    | .render spec => some spec
    | _ => none

theorem asked_append (cs ds : List (Call ι)) : asked (cs ++ ds) = asked cs ++ asked ds :=
  List.filterMap_append

theorem asked_map_render (specs : List String) :
    asked (specs.map .render : List (Call ι)) = specs := by
  induction specs with
  | nil => rfl
  | cons spec specs ih => exact congrArg (spec :: ·) ih

theorem asked_eq_nil {cs : List (Call ι)} (h : ∀ c ∈ cs, c.asksRenderer = false) :
    asked cs = [] := by
  refine List.filterMap_eq_nil_iff.mpr fun c hc => ?_
  cases c with
  | render spec => cases h _ hc
  | compile | clear | append | setContent | notify => rfl

/-- A specification in the new result, unless the last result had the same. -/
def changed (spec : CompileResult → String) (last : Option CompileResult) :
    Option CompileResult → List String
  | none => []
  | some r => if last.map spec = some (spec r) then [] else [spec r]

def isOfAst : PipelineError → Bool
  | .render .ast _ => true
  | .render .ptree _ | .compiler _ | .malformed _ => false

def failsAst {β : Type} : Except PipelineError β → Bool
  | .error e => isOfAst e
  | .ok _ => false

/-- The cache has the picture on show, made from `spec`. -/
def Holds (spec : Option String) (cache : GraphCache ι) (pane : Pane σ α ι) : Prop :=
  match spec with
  | none => cache = .empty
  | some spec => ∃ image, pane.viewport.content = some image ∧ cache.entry = some ⟨spec, image⟩

theorem Holds.eq_some_iff {last : Option String} {cache : GraphCache ι} {pane : Pane σ α ι}
    (h : Holds last cache pane) (spec : String) :
    last = some spec ↔ ∃ image, cache.entry = some ⟨spec, image⟩ := by
  cases last with
  | none =>
      obtain rfl : cache = .empty := h
      simp [GraphCache.empty]
  | some held =>
      obtain ⟨image, _, hentry⟩ := h
      simp [hentry]

section

variable [GraphRenderer ε ι] {cache : GraphCache ι} {spec : String} {env env' : ε}
  {specs : List String} {value : Except RenderFailure (Picture ι)}

theorem Pictures.specs_eq {pane : Pane σ α ι} {last : Option String}
    (h : Pictures cache spec env env' specs value) (held : Holds last cache pane) :
    specs = if last = some spec then [] else [spec] := by
  have hlast := held.eq_some_iff spec
  cases h with
  | reused hit => rw [if_pos (hlast.mpr ⟨_, hit⟩)]
  | rendered missing | failed missing =>
      rw [if_neg fun same => (hlast.mp same).elim missing]

theorem Pictures.rendered_eq {picture : Picture ι}
    (h : Pictures cache spec env env' specs (.ok picture)) : picture.rendered = !specs.isEmpty := by
  cases h with
  | reused hit => rfl
  | rendered missing made => rfl

theorem Pictures.fails_iff (h : Pictures cache spec env env' specs value) :
    (∃ failure, value = .error failure) ↔
      ∃ x ∈ specs, ∃ failure, (GraphRenderer.render env x).1 = .error failure := by
  cases h with
  | reused hit => simp
  | rendered missing made => simp [made]
  | failed missing lost => simp [lost]

theorem decoded_of_read {raw : String} {r : CompileResult}
    (read : CompileResult.ofJson raw = .ok r) : decoded (.ok raw) = some r := by
  rw [decoded, read]
  rfl

theorem decoded_of_unread {raw : String} {fault : Json.Fault}
    (unread : CompileResult.ofJson raw = .error fault) : decoded (.ok raw) = none := by
  rw [decoded, unread]
  rfl

variable {astCache ptreeCache : GraphCache ι} {answer : Except CompilerFailure String}
  {prepared : Except PipelineError (Prepared ι)}

theorem Prepares.failsAst_iff {pane : Pane σ α ι} {last : Option CompileResult}
    (h : Prepares astCache ptreeCache env answer env' specs prepared)
    (ast : Holds (last.map (·.ast)) astCache pane) :
    failsAst prepared = true ↔
      ∃ spec ∈ changed (·.ast) last (decoded answer),
        ∃ failure, (GraphRenderer.render env spec).1 = .error failure := by
  cases h with
  | refused failure => simp [failsAst, isOfAst, decoded, changed]
  | malformed unread => simp [failsAst, isOfAst, decoded_of_unread unread, changed]
  | astFailed read first =>
      rw [decoded_of_read read, changed, ← first.specs_eq ast, ← first.fails_iff]
      simp [failsAst, isOfAst]
  | ptreeFailed read first | ready read first =>
      rw [decoded_of_read read, changed, ← first.specs_eq ast, ← first.fails_iff]
      simp [failsAst, isOfAst]

theorem Prepares.specs_eq {astPane ptreePane : Pane σ α ι} {last : Option CompileResult}
    (h : Prepares astCache ptreeCache env answer env' specs prepared)
    (ast : Holds (last.map (·.ast)) astCache astPane)
    (ptree : Holds (last.map (·.ptree)) ptreeCache ptreePane) :
    specs = changed (·.ast) last (decoded answer) ++
      if failsAst prepared then [] else changed (·.ptree) last (decoded answer) := by
  cases h with
  | refused failure => rfl
  | malformed unread => rw [decoded_of_unread unread]; rfl
  | astFailed read first =>
      rw [decoded_of_read read, changed, ← first.specs_eq ast]
      exact (List.append_nil _).symm
  | ptreeFailed read first second | ready read first second =>
      rw [decoded_of_read read, changed, changed, ← first.specs_eq ast, ← second.specs_eq ptree]
      rfl

theorem Prepares.decoded_eq {r : Prepared ι} {astPane ptreePane : Pane σ α ι}
    {last : Option CompileResult}
    (h : Prepares astCache ptreeCache env answer env' specs (.ok r))
    (ast : Holds (last.map (·.ast)) astCache astPane)
    (ptree : Holds (last.map (·.ptree)) ptreeCache ptreePane) :
    decoded answer = some r.result ∧
      r.ast.rendered = !(changed (·.ast) last (decoded answer)).isEmpty ∧
      r.ptree.rendered = !(changed (·.ptree) last (decoded answer)).isEmpty := by
  cases h with
  | ready read first second =>
      rw [decoded_of_read read, changed, changed, ← first.specs_eq ast, ← second.specs_eq ptree]
      exact ⟨rfl, first.rendered_eq, second.rendered_eq⟩

end

/-- How much is asked of the renderer when `answer` comes after `last`, and what a result says of
it. -/
structure Redraws [GraphRenderer ε ι] (last : Option CompileResult) (env : ε)
    (answer : Except CompilerFailure String) (cs : List (Call ι)) (v : Views σ α ι)
    (result : Except PipelineError Summary) : Prop where
  asked : asked cs =
    changed (·.ast) last (decoded answer) ++
      if failsAst result then [] else changed (·.ptree) last (decoded answer)
  failsAst : failsAst result = true ↔
    ∃ spec ∈ changed (·.ast) last (decoded answer),
      ∃ failure, (GraphRenderer.render env spec).1 = .error failure
  summary : ∀ s, result = .ok s → ∃ r, decoded answer = some r ∧
    v.tokens.entries = r.tokens ∧ v.analysis.entries = r.analysis ∧
    s.tokens = r.tokens.length ∧ s.analysis = r.analysis.length ∧
    s.astRendered = !(changed (·.ast) last (decoded answer)).isEmpty ∧
    s.ptreeRendered = !(changed (·.ptree) last (decoded answer)).isEmpty

variable [Scalar α] [DrawingSurface σ α ι] [GraphRenderer ε ι]

theorem FansOut.redraws {p p' : Pipeline ι} {v v' : Views σ α ι} {env env' : ε}
    {answer : Except CompilerFailure String} {cs : List (Call ι)}
    {result : Except PipelineError Summary} {last : Option CompileResult}
    (h : FansOut p v env answer cs p' env' v' result)
    (ast : Holds (last.map (·.ast)) p.astCache v.ast)
    (ptree : Holds (last.map (·.ptree)) p.ptreeCache v.ptree) :
    Redraws last env answer cs v' result := by
  cases h with
  | @shown r _ specs _ ready _ _ =>
      have hasked : asked (specs.map .render ++ filling p.config r) = specs := by
        rw [asked_append, asked_map_render, asked_eq_nil (asksRenderer_filling _ _),
          List.append_nil]
      obtain ⟨hdecoded, hast, hptree⟩ := ready.decoded_eq ast ptree
      refine ⟨hasked.trans (ready.specs_eq ast ptree), ready.failsAst_iff ast, ?_⟩
      rintro _ ⟨⟩
      exact ⟨r.result, hdecoded, rfl, rfl, rfl, rfl, hast, hptree⟩
  | @withheld error _ specs _ failed _ _ =>
      have hasked : asked (specs.map .render ++ [.notify .failure p.config.failureMessage] :
          List (Call ι)) = specs := by
        rw [asked_append, asked_map_render]
        exact List.append_nil _
      exact ⟨hasked.trans (failed.specs_eq ast ptree), failed.failsAst_iff ast, nofun⟩

end Pipeline

namespace Session

variable {ε σ α ι : Type} [Scalar α] [DrawingSurface σ α ι] [GraphRenderer ε ι] [Compiler ε]

def brings (s : Session ε σ α ι) : Request → Option (Except CompilerFailure String × ε)
  | .begin => none
  | .run source => some (Compiler.compile s.env source)
  | .complete _ answer => some (answer, s.env)

def Reply.applied : Reply → Bool
  | .ended (.ok (.applied _)) => true
  | .ended (.ok .discarded) | .ended (.error _) | .opened _ => false

theorem Reply.applied_ended (result : Except PipelineError Summary) :
    (Reply.ended (result.map .applied)).applied = result.isOk := by
  cases result with
  | ok summary => rfl
  | error e => rfl

def applies (s : Session ε σ α ι) (r : Request) : List CompileResult :=
  if (s.reply r).applied then ((s.brings r).bind (decoded ·.1)).toList else []

/-- Both caches hold what was applied last and is on show. -/
structure Cached (last : Option CompileResult) (s : Session ε σ α ι) : Prop where
  ast : Holds (last.map (·.ast)) s.pipeline.astCache s.views.ast
  ptree : Holds (last.map (·.ptree)) s.pipeline.ptreeCache s.views.ptree

omit [Compiler ε] in
theorem Cached.fansOut {last : Option CompileResult} {s next : Session ε σ α ι} {env : ε}
    {answer : Except CompilerFailure String} {cs : List (Call ι)}
    {result : Except PipelineError Summary} (h : Cached last s)
    (fans : FansOut s.pipeline s.views env answer cs next.pipeline next.env next.views result) :
    Cached ((if result.isOk then (decoded answer).toList else []).getLast?.or last) next := by
  obtain ⟨p', env', v'⟩ := next
  cases fans with
  | shown ready ast ptree =>
      rw [(ready.decoded_eq h.ast h.ptree).1]
      exact ⟨⟨_, rfl, ast⟩, ⟨_, rfl, ptree⟩⟩
  | withheld failed ast ptree =>
      refine ⟨?_, ?_⟩
      · exact ast ▸ h.ast
      · exact ptree ▸ h.ptree

theorem Cached.after {last : Option CompileResult} {s : Session ε σ α ι} (h : Cached last s)
    (r : Request) : Cached ((s.applies r).getLast?.or last) (s.after r) := by
  have hsteps := s.steps_after r
  rw [applies]
  generalize s.reply r = reply, calls (s.activities r) = cs, s.after r = next at hsteps ⊢
  cases hsteps with
  | opened => exact ⟨h.ast, h.ptree⟩
  | dropped stale => exact h
  | ran fans | completed current fans =>
      rw [Reply.applied_ended]
      exact h.fansOut fans

theorem cached_play (config : PipelineConfig) (env : ε) (views : Views σ α ι)
    (log : List Request) :
    let start := initial config env views
    Cached (start.along applies log).getLast? (start.play log) := by
  intro start
  -- From the end: what a request applies depends on all that came before it.
  induction log using List.reverseRecOn with
  | nil => exact ⟨rfl, rfl⟩
  | append_singleton log r ih =>
      rw [along_concat, play_concat, List.getLast?_append]
      exact ih.after r

theorem Cached.redraws {last : Option CompileResult} {s : Session ε σ α ι} (h : Cached last s)
    {r : Request} {answer : Except CompilerFailure String} {env : ε}
    (brings : s.brings r = some (answer, env)) (counts : s.reply r ≠ .ended (.ok .discarded)) :
    ∃ result, s.reply r = .ended (result.map .applied) ∧
      Redraws last env answer (calls (s.activities r)) (s.after r).views result := by
  have hsteps := s.steps_after r
  generalize s.reply r = reply, calls (s.activities r) = cs, s.after r = next at hsteps counts ⊢
  cases hsteps with
  | opened => cases brings
  | dropped stale => exact absurd rfl counts
  | ran fans =>
      have hcompile : Compiler.compile s.env _ = (answer, env) := Option.some.inj brings
      have hfans := fans.redraws h.ast h.ptree
      rw [hcompile] at hfans
      exact ⟨_, rfl, hfans.asked, hfans.failsAst, hfans.summary⟩
  | completed current fans =>
      cases brings
      exact ⟨_, rfl, fans.redraws h.ast h.ptree⟩

/-- While nothing was applied both caches are empty; afterwards each has the specification of the
result applied last, with the picture that its pane shows. A request that brings an answer and is
not dropped asks the renderer for the AST if the answer can be read and has another AST than that
result, and then for the parse tree, likewise, unless the AST has failed. What it says of the
pictures and of the lists is true. -/
theorem caches_hold_last_applied (config : PipelineConfig) (env : ε) (views : Views σ α ι)
    (log : List Request) :
    let start := initial config env views
    let s := start.play log
    let last := (start.along applies log).getLast?
    Holds (last.map (·.ast)) s.pipeline.astCache s.views.ast ∧
    Holds (last.map (·.ptree)) s.pipeline.ptreeCache s.views.ptree ∧
    ∀ r answer env', s.brings r = some (answer, env') →
      s.reply r ≠ .ended (.ok .discarded) →
      ∃ result, s.reply r = .ended (result.map .applied) ∧
        Redraws last env' answer (calls (s.activities r)) (s.after r).views result := by
  intro start s last
  have h : Cached last s := cached_play config env views log
  exact ⟨h.ast, h.ptree, fun r answer env' => h.redraws⟩

theorem returning_ast_is_asked_for_again :
    let page : Page :=
      .ofScript
        (fun _ spec => if spec = "c" then .throws (.text "no") else .returns (.text "<svg/>"))
        (.ok ⟨none, false, false, none⟩)
    let pane : Pane CanvasContext Float Drawable := .ofSurface ⟨300, 200, #[]⟩ .standard
    let start := initial .standard page ⟨.empty, .empty, pane, pane, []⟩
    let raw (ast ptree : String) := CompileResult.toJson ⟨["x"], ast, ptree, []⟩
    let log : List Request :=
      [.begin, .complete ⟨1⟩ (.ok (raw "a" "t")), .begin, .complete ⟨2⟩ (.ok (raw "b" "t")),
        .begin, .complete ⟨3⟩ (.ok (raw "a" "c")), .begin]
    let s := start.play log
    let last := (start.along applies log).getLast?
    let answer : Except CompilerFailure String := .ok (raw "a" "t")
    let r : Request := .complete ⟨4⟩ answer
    last.map (·.ast) = some "b" ∧ asked (calls (s.activities r)) = ["a"] ∧
      s.reply r ≠ .ended (.ok .discarded) ∧
      ∃ result, s.reply r = .ended (result.map .applied) ∧
        Redraws last s.env answer (calls (s.activities r)) (s.after r).views result := by
  intro page pane start raw log s last answer r
  have counts : s.reply r ≠ .ended (.ok .discarded) := by
    rw [Ne, reply, Reply.ended.injEq, complete_discards_iff, Bool.not_eq_false]
    decide +kernel
  refine ⟨by decide +kernel, by decide +kernel, counts, ?_⟩
  exact (caches_hold_last_applied .standard page ⟨.empty, .empty, pane, pane, []⟩ log).2.2 r answer
    s.env rfl counts

end Session

end GraphLens
