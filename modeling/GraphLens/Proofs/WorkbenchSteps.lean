import GraphLens.Page.Workbench
import GraphLens.Proofs.FanOut
import GraphLens.Proofs.PageSteps

namespace GraphLens

open Pipeline

namespace Pipeline

def cache {ι : Type} (p : Pipeline ι) : GraphKind → GraphCache ι
  | .ast => p.astCache
  | .ptree => p.ptreeCache

def Activity.content? {ι : Type} (graph : GraphKind) : Activity ι → Option ι
  | .call (.setContent g image) => if g = graph then some image else none
  | _ => none

def Activity.isQuiet {ι : Type} : Activity ι → Bool
  | .call (.setContent _ _) => false
  | _ => true

theorem content?_of_quiet {ι : Type} (graph : GraphKind) {as : List (Activity ι)}
    (quiet : ∀ a ∈ as, a.isQuiet = true) : as.filterMap (Activity.content? graph) = [] := by
  refine List.filterMap_eq_nil_iff.mpr fun a ha => ?_
  have := quiet a ha
  cases a with
  | notice n => rfl
  | call c =>
      cases c with
      | setContent => cases this
      | compile | render | clear | append | notify => rfl

/-- The image was in the cache, or the page has got it since. -/
inductive Gets (cache : GraphCache Drawable) (page page' : Page) : Drawable → Prop
  | held {spec : String} {image : Drawable} (held : cache.entry = some ⟨spec, image⟩) :
      Gets cache page page' image
  | made {number : Nat} (new : page.images.length ≤ number)
      (lt : number < page'.images.length) : Gets cache page page' (.image number)

theorem Gets.mono {cache : GraphCache Drawable} {page₀ page page' : Page} {image : Drawable}
    (h : Gets cache page page' image) (le : page₀.images.length ≤ page.images.length) :
    Gets cache page₀ page' image := by
  cases h with
  | held held => exact .held held
  | made new lt => exact .made (Nat.le_trans le new) lt

theorem Gets.shown_or_new {cache : GraphCache Drawable} {page page' : Page} {d : Drawable}
    {c : GraphCanvas} (h : Gets cache page page' d)
    (cached : ∀ spec image, cache.entry = some ⟨spec, image⟩ → c.content = some image) :
    c.content = some d ∨
      ∃ number, d = .image number ∧ page.images.length ≤ number ∧ number < page'.images.length := by
  cases h with
  | held held => exact .inl (cached _ _ held)
  | made new lt => exact .inr ⟨_, rfl, new, lt⟩

section

variable {cache : GraphCache Drawable} {spec : String} {page page' : Page} {specs : List String}

theorem Pictures.grows {result : Except RenderFailure (Picture Drawable)}
    (h : Pictures cache spec page page' specs result) (fresh : page.Fresh) :
    page.Grows page' := by
  cases h with
  | reused held => exact .refl page
  | rendered missing made =>
      have := (page.grows_render fresh spec).1
      rwa [made] at this
  | failed missing lost =>
      have := (page.grows_render fresh spec).1
      rwa [lost] at this

theorem Pictures.gets {picture : Picture Drawable}
    (h : Pictures cache spec page page' specs (.ok picture)) (fresh : page.Fresh) :
    Gets cache page page' picture.image := by
  cases h with
  | reused held => exact .held held
  | rendered missing made =>
      have new := (page.grows_render fresh spec).2
      rw [made] at new
      obtain ⟨rfl, lt⟩ := new _ rfl
      exact .made (Nat.le_refl _) lt

theorem Prepares.grows {astCache ptreeCache : GraphCache Drawable}
    {answer : Except CompilerFailure String} {result : Except PipelineError (Prepared Drawable)}
    (h : Prepares astCache ptreeCache page answer page' specs result) (fresh : page.Fresh) :
    page.Grows page' := by
  cases h with
  | refused | malformed => exact .refl page
  | astFailed read first => exact first.grows fresh
  | ptreeFailed read first second | ready read first second =>
      have grows := first.grows fresh
      exact grows.trans (second.grows (grows.fresh fresh))

theorem Prepares.gets {astCache ptreeCache : GraphCache Drawable}
    {answer : Except CompilerFailure String} {r : Prepared Drawable}
    (h : Prepares astCache ptreeCache page answer page' specs (.ok r)) (fresh : page.Fresh) :
    ∃ mid, page.Grows mid ∧ mid.Grows page' ∧ Gets astCache page mid r.ast.image ∧
      Gets ptreeCache mid page' r.ptree.image := by
  cases h with
  | ready read first second =>
      have grows := first.grows fresh
      exact ⟨_, grows, second.grows (grows.fresh fresh), first.gets fresh,
        second.gets (grows.fresh fresh)⟩

end

/-- What an answer comes to, for the images on the page and the two canvases. -/
inductive Answers (p : Pipeline Drawable) (page : Page) :
    List (Activity Drawable) → Pipeline Drawable → Page → Prop
  | withheld {as : List (Activity Drawable)} {p' : Pipeline Drawable} {page' : Page}
      (quiet : ∀ a ∈ as, a.isQuiet = true) (grows : page.Grows page')
      (cache : ∀ graph, p'.cache graph = p.cache graph) : Answers p page as p' page'
  | shown {as bs : List (Activity Drawable)} {p' : Pipeline Drawable} {mid page' : Page}
      {astSpec ptreeSpec : String} {ast ptree : Drawable}
      (before : ∀ a ∈ as, a.isQuiet = true) (behind : ∀ b ∈ bs, b.isQuiet = true)
      (grows : page.Grows mid) (grows' : mid.Grows page')
      (first : Gets p.astCache page mid ast) (second : Gets p.ptreeCache mid page' ptree)
      (astCache : p'.astCache.entry = some ⟨astSpec, ast⟩)
      (ptreeCache : p'.ptreeCache.entry = some ⟨ptreeSpec, ptree⟩) :
      Answers p page
        (as ++ [.call (.setContent .ast ast), .call (.setContent .ptree ptree)] ++ bs) p' page'

theorem Answers.after {p p' : Pipeline Drawable} {page₀ page page' : Page}
    {as : List (Activity Drawable)} (h : Answers p page as p' page') (grows : page₀.Grows page)
    (start : List (Activity Drawable)) (quiet : ∀ a ∈ start, a.isQuiet = true) :
    Answers p page₀ (start ++ as) p' page' := by
  cases h with
  | withheld quiet' grows' cache =>
      exact .withheld (List.forall_mem_append.mpr ⟨quiet, quiet'⟩) (grows.trans grows') cache
  | shown before behind grows' grows'' first second astCache ptreeCache =>
      rw [List.append_assoc, ← List.append_assoc, ← List.append_assoc]
      exact .shown (List.forall_mem_append.mpr ⟨quiet, before⟩) behind (grows.trans grows') grows''
        (first.mono grows.length_le) second astCache ptreeCache

theorem isQuiet_of_mem_replaceList {list : ListKind} {entries : List String}
    {a : Activity Drawable} (h : a ∈ replaceList list entries) : a.isQuiet = true := by
  rw [replaceList, List.mem_cons, List.mem_map] at h
  obtain rfl | ⟨entry, -, rfl⟩ := h <;> rfl

theorem isQuiet_of_mem_prepare (p : Pipeline Drawable) (answer : Except CompilerFailure String)
    (page : Page) : ∀ a ∈ (p.prepare answer page).activities, a.isQuiet = true := by
  obtain ⟨specs, hspecs, -⟩ := prepare_prepares p answer page
  intro a ha
  cases a with
  | notice n => rfl
  | call c =>
      have hc : c ∈ calls (p.prepare answer page).activities :=
        List.mem_filterMap.mpr ⟨_, ha, rfl⟩
      rw [hspecs, List.mem_map] at hc
      obtain ⟨spec, -, rfl⟩ := hc
      rfl

theorem fanOut_answers {page : Page} (fresh : page.Fresh) (p : Pipeline Drawable)
    (sequencer : RequestSequencer) (answer : Except CompilerFailure String) :
    let work := fanOut { p with sequencer } answer page
    Answers p page work.activities work.value.1 work.env := by
  have quiet := isQuiet_of_mem_prepare { p with sequencer } answer page
  obtain ⟨specs, -, prepares⟩ := prepare_prepares { p with sequencer } answer page
  simp only [fanOut]
  cases h : (prepare { p with sequencer } answer page).value with
  | error error =>
      rw [h] at prepares
      refine .withheld (List.forall_mem_append.mpr ⟨quiet, ?_⟩) (prepares.grows fresh)
        fun graph => ?_
      · simp [failing, Activity.isQuiet]
      · cases graph <;> rfl
  | ok r =>
      rw [h] at prepares
      obtain ⟨mid, grows, grows', first, second⟩ := prepares.gets fresh
      dsimp only
      rw [showing, List.append_assoc, List.append_assoc, ← List.append_assoc,
        ← List.append_assoc]
      refine .shown (List.forall_mem_append.mpr ⟨quiet, fun a => isQuiet_of_mem_replaceList⟩)
        (List.forall_mem_append.mpr ⟨fun a => isQuiet_of_mem_replaceList, ?_⟩) grows grows' first
        second prepares.recached.1 prepares.recached.2
      simp [Activity.isQuiet]

theorem run_answers {page : Page} (fresh : page.Fresh) (p : Pipeline Drawable) (source : String) :
    let work := p.run source page
    Answers p page work.activities work.value.1 work.env := by
  have grows := page.grows_compile source
  refine .after (fanOut_answers (grows.fresh fresh) p _ _) grows [_, _] ?_
  simp [Activity.isQuiet]

theorem complete_answers {page : Page} (fresh : page.Fresh) (p : Pipeline Drawable)
    (ticket : Ticket) (answer : Except CompilerFailure String) :
    let work := p.complete ticket answer page
    Answers p page work.activities work.value.1 work.env := by
  cases settled : (p.sequencer.settle ticket Target.all).1 with
  | false =>
      rw [complete_of_stale p ticket answer page settled]
      exact .withheld (by simp [Activity.isQuiet]) (.refl page) fun _ => rfl
  | true =>
      rw [complete_of_current p ticket answer page settled]
      exact .after (fanOut_answers fresh p _ answer) (.refl page) [_] (by simp [Activity.isQuiet])

end Pipeline

namespace Workbench

inductive Happening where
  | run (source : String)
  | begin
  | complete (ticket : Ticket) (answer : Except CompilerFailure String)
  | rescript (script : Page.ScriptFunction → String → ScriptResult)
      (newImage : Except ScriptValue PageImage)
  | decode (number : Nat)
  | load (number : Nat)
  | redraw (graph : GraphKind)
  | pointer (graph : GraphKind) (event : Pointer.Event Float)

def redraw (w : Workbench) (graph : GraphKind) : Workbench :=
  let (canvas, page, _) := (w.canvas graph).perform w.page .redraw
  w.withCanvas graph canvas page

def pointer (w : Workbench) (graph : GraphKind) (event : Pointer.Event Float) : Workbench :=
  let (canvas, page, _) := (w.canvas graph).handle w.page event
  w.withCanvas graph canvas page

def after (w : Workbench) : Happening → Workbench
  | .run source => (w.run source).2
  | .begin => w.begin.2
  | .complete ticket answer => (w.complete ticket answer).2
  | .rescript script newImage => { w with page := { w.page with script, newImage } }
  | .decode number => w.decode number
  | .load number => (w.load number).2
  | .redraw graph => w.redraw graph
  | .pointer graph event => w.pointer graph event

def play (w : Workbench) (log : List Happening) : Workbench := log.foldl after w

def activities (w : Workbench) : Happening → List (Activity Drawable)
  | .run source => (w.pipeline.run source w.page).activities
  | .begin => w.pipeline.begin.2.2.map .notice
  | .complete ticket answer => (w.pipeline.complete ticket answer w.page).activities
  | .rescript _ _ | .decode _ | .load _ | .redraw _ | .pointer _ _ => []

def given (w : Workbench) (graph : GraphKind) (h : Happening) : List Drawable :=
  (w.activities h).filterMap (Activity.content? graph)

theorem canvas_withCanvas (w : Workbench) (graph other : GraphKind) (canvas : GraphCanvas)
    (page : Page) :
    (w.withCanvas graph canvas page).canvas other =
      if other = graph then canvas else w.canvas other := by
  cases graph <;> cases other <;> rfl

theorem page_withCanvas (w : Workbench) (graph : GraphKind) (canvas : GraphCanvas) (page : Page) :
    (w.withCanvas graph canvas page).page = page := by
  cases graph <;> rfl

theorem pipeline_withCanvas (w : Workbench) (graph : GraphKind) (canvas : GraphCanvas)
    (page : Page) : (w.withCanvas graph canvas page).pipeline = w.pipeline := by
  cases graph <;> rfl

theorem canvas_withPage (w : Workbench) (pipeline : Pipeline Drawable) (page : Page)
    (graph : GraphKind) :
    ({ w with pipeline, page } : Workbench).canvas graph = w.canvas graph := by
  cases graph <;> rfl

def Happening.isRequest : Happening → Bool
  | .run _ | .begin | .complete _ _ => true
  | .rescript _ _ | .decode _ | .load _ | .redraw _ | .pointer _ _ => false

theorem after_of_isRequest {w : Workbench} {h : Happening} (request : h.isRequest = true)
    (fresh : w.page.Fresh) :
    ∃ p page, Answers w.pipeline w.page (w.activities h) p page ∧
      w.after h = (w.activities h).foldl perform { w with pipeline := p, page } := by
  cases h with
  | run source => exact ⟨_, _, run_answers fresh w.pipeline source, rfl⟩
  | begin =>
      refine ⟨w.pipeline.begin.2.1, w.page, .withheld ?_ (.refl w.page) fun graph => ?_, rfl⟩
      · simp [activities, Activity.isQuiet]
      · cases graph <;> rfl
  | complete ticket answer =>
      exact ⟨_, _, complete_answers fresh w.pipeline ticket answer, rfl⟩
  | rescript | decode | load | redraw | pointer => cases request

/-- The canvases are as they were, and the page grew, if anything. -/
structure Calm (w w' : Workbench) : Prop where
  canvas (graph : GraphKind) : w'.canvas graph = w.canvas graph
  grows : w.page.Grows w'.page

theorem Calm.trans {w mid w' : Workbench} (h : w.Calm mid) (h' : mid.Calm w') : w.Calm w' :=
  ⟨fun graph => (h'.canvas graph).trans (h.canvas graph), h.grows.trans h'.grows⟩

theorem calm_withPage (w : Workbench) (pipeline : Pipeline Drawable) {page : Page}
    (grows : w.page.Grows page) : w.Calm { w with pipeline, page } :=
  ⟨w.canvas_withPage pipeline page, grows⟩

theorem calm_perform (w : Workbench) {a : Activity Drawable} (quiet : a.isQuiet = true) :
    w.Calm (w.perform a) := by
  have unchanged {w w' : Workbench} (hast : w'.ast = w.ast) (hptree : w'.ptree = w.ptree)
      (hpage : w.page.Grows w'.page) : w.Calm w' := by
    refine ⟨fun graph => ?_, hpage⟩
    cases graph
    · exact hast
    · exact hptree
  cases a with
  | notice n => exact unchanged rfl rfl (w.page.grows_report _)
  | call c =>
      cases c with
      | compile | render => exact unchanged rfl rfl (.refl w.page)
      | clear list =>
          cases list
          · exact unchanged rfl rfl (w.page.grows_record fun _ => rfl)
          · exact unchanged rfl rfl (w.page.grows_record fun _ => rfl)
      | append list entry =>
          cases list
          · exact unchanged rfl rfl (w.page.grows_append w.tokens entry)
          · exact unchanged rfl rfl (w.page.grows_append w.analysis entry)
      | setContent => cases quiet
      | notify status message =>
          exact unchanged rfl rfl
            ((w.page.grows_record fun _ => rfl).trans (Page.grows_record _ fun _ => rfl))

theorem calm_foldl (w : Workbench) {as : List (Activity Drawable)}
    (quiet : ∀ a ∈ as, a.isQuiet = true) : w.Calm (as.foldl perform w) := by
  induction as generalizing w with
  | nil => exact ⟨fun _ => rfl, .refl w.page⟩
  | cons a as ih =>
      obtain ⟨ha, has⟩ := List.forall_mem_cons.mp quiet
      exact (w.calm_perform ha).trans (ih (w.perform a) has)

theorem pipeline_perform (w : Workbench) (a : Activity Drawable) :
    (w.perform a).pipeline = w.pipeline := by
  cases a with
  | notice n => rfl
  | call c =>
      cases c with
      | clear list | append list => cases list <;> rfl
      | setContent graph => cases graph <;> rfl
      | compile | render | notify => rfl

theorem pipeline_foldl (w : Workbench) (as : List (Activity Drawable)) :
    (as.foldl perform w).pipeline = w.pipeline := by
  induction as generalizing w with
  | nil => rfl
  | cons a as ih => exact (ih (w.perform a)).trans (w.pipeline_perform a)

end Workbench

end GraphLens
