import GraphLens.Proofs.Decoding
import GraphLens.Proofs.WorkbenchSteps

namespace GraphLens

open Pipeline

namespace Workbench

def asked (w : Workbench) (graph : GraphKind) (h : Happening) :
    List (Surface.Call Float Drawable) :=
  ((w.after h).page.callsOn (w.canvas graph).name).drop
    (w.page.callsOn (w.canvas graph).name).length

def inState (w : Workbench) (h : Happening) (d : Drawable) : Drawable × Bool :=
  (d, (w.after h).page.isComplete d)

def drawings (w : Workbench) (graph : GraphKind) (h : Happening) : List (Drawable × Bool) :=
  ((w.asked graph h).filterMap Surface.Call.image?).map (w.inState h)

def settings (w : Workbench) (graph : GraphKind) (h : Happening) : List (Drawable × Bool) :=
  (w.given graph h).map (w.inState h)

def Cached (w : Workbench) : Prop :=
  ∀ graph spec image, (w.pipeline.cache graph).entry = some ⟨spec, image⟩ →
    (w.canvas graph).content = some image

/-- Both canvases know of their images, and no image is on show on both. -/
structure Steady (w : Workbench) (drawn : GraphKind → List (Drawable × Bool))
    (done : GraphKind → Nat → Prop) : Prop where
  fresh : w.page.Fresh
  waits (graph : GraphKind) : (w.canvas graph).Waits w.page (drawn graph) (done graph)
  names {graph other : GraphKind} (h : (w.canvas graph).name = (w.canvas other).name) :
    graph = other
  apart {graph other : GraphKind} {number : Nat}
    (h : (w.canvas graph).content = some (.image number))
    (h' : (w.canvas other).content = some (.image number)) : graph = other

/-- Each canvas has drawn some images, one after the other, and shows the last of them. -/
structure Paints (w : Workbench) (images : GraphKind → List Drawable) (w' : Workbench) : Prop where
  name (graph : GraphKind) : (w'.canvas graph).name = (w.canvas graph).name
  content (graph : GraphKind) :
    (w'.canvas graph).content = (images graph).getLast?.or (w.canvas graph).content
  length_le : w.page.images.length ≤ w'.page.images.length
  complete (d : Drawable) (h : w.page.Has d) : w'.page.isComplete d = w.page.isComplete d
  has (graph : GraphKind) : ∀ d ∈ images graph, w'.page.Has d
  asked (graph : GraphKind) : ∃ calls,
    w'.page.callsOn (w.canvas graph).name = w.page.callsOn (w.canvas graph).name ++ calls ∧
      calls.filterMap Surface.Call.image? = images graph

def seen (w : Workbench) (images : GraphKind → List Drawable) (graph : GraphKind) :
    List (Drawable × Bool) :=
  (images graph).map fun d => (d, w.page.isComplete d)

variable {w w' mid : Workbench} {graph : GraphKind}
  {drawn : GraphKind → List (Drawable × Bool)} {done : GraphKind → Nat → Prop}
  {images images' : GraphKind → List Drawable}

theorem asked_eq_nil {h : Happening}
    (callsOn : (w.after h).page.callsOn (w.canvas graph).name =
      w.page.callsOn (w.canvas graph).name) : w.asked graph h = [] := by
  rw [Workbench.asked, callsOn, List.drop_length]

theorem Paints.drawings {h : Happening} (paints : w.Paints images (w.after h))
    (graph : GraphKind) :
    w.drawings graph h = (images graph).map (w.inState h) := by
  obtain ⟨calls, hcalls, himages⟩ := paints.asked graph
  rw [Workbench.drawings, Workbench.asked, hcalls, List.drop_left, himages]

theorem Paints.trans (p : w.Paints images mid) (p' : mid.Paints images' w') :
    w.Paints (fun graph => images graph ++ images' graph) w' where
  name graph := (p'.name graph).trans (p.name graph)
  content graph := by rw [p'.content, p.content, List.getLast?_append, Option.or_assoc]
  length_le := Nat.le_trans p.length_le p'.length_le
  complete d hd := (p'.complete d (hd.mono p.length_le)).trans (p.complete d hd)
  has graph := by
    refine List.forall_mem_append.mpr ⟨fun d hd => ?_, p'.has graph⟩
    exact (p.has graph d hd).mono p'.length_le
  asked graph := by
    obtain ⟨calls, hcalls, himages⟩ := p.asked graph
    obtain ⟨calls', hcalls', himages'⟩ := p'.asked graph
    rw [p.name] at hcalls'
    refine ⟨calls ++ calls', ?_, ?_⟩
    · rw [hcalls', hcalls, List.append_assoc]
    · rw [List.filterMap_append, himages, himages']

theorem paints_nothing (canvas : ∀ graph, w'.canvas graph = w.canvas graph)
    (length_le : w.page.images.length ≤ w'.page.images.length)
    (complete : ∀ d, w.page.Has d → w'.page.isComplete d = w.page.isComplete d)
    (callsOn : ∀ name, w'.page.callsOn name = w.page.callsOn name) :
    w.Paints (fun _ => []) w' where
  name graph := by rw [canvas]
  content graph := by rw [canvas, List.getLast?_nil, Option.none_or]
  length_le := length_le
  complete := complete
  has _ := nofun
  asked graph := ⟨[], by rw [callsOn, List.append_nil], rfl⟩

theorem Calm.paints (calm : w.Calm w') : w.Paints (fun _ => []) w' :=
  paints_nothing calm.canvas calm.grows.length_le (fun _ => calm.grows.isComplete)
    calm.grows.callsOn

def only (graph : GraphKind) (ds : List Drawable) (other : GraphKind) : List Drawable :=
  if other = graph then ds else []

theorem paints_withCanvas {ds : List Drawable} {c' : GraphCanvas} {page' : Page}
    (names : ∀ other, (w.canvas other).name = (w.canvas graph).name → other = graph)
    (repaints : (w.canvas graph).Repaints w.page ds c' page') (has : ∀ d ∈ ds, w.page.Has d) :
    w.Paints (only graph ds) (w.withCanvas graph c' page') where
  name other := by
    rw [canvas_withCanvas]
    split
    · next h => rw [repaints.name, h]
    · rfl
  content other := by
    rw [canvas_withCanvas, only]
    split
    · next h => rw [repaints.content, h]
    · rfl
  length_le := by
    refine Nat.le_of_eq ?_
    rw [page_withCanvas, repaints.length_eq]
  complete d _ := by rw [page_withCanvas, repaints.complete]
  has other d hd := by
    rw [page_withCanvas]
    rw [only] at hd
    split at hd
    · exact (has d hd).mono (Nat.le_of_eq repaints.length_eq.symm)
    · cases hd
  asked other := by
    rw [page_withCanvas, only]
    split
    · next h =>
        rw [h]
        exact repaints.own
    · next ne =>
        refine ⟨[], ?_, rfl⟩
        rw [repaints.others _ fun h => ne (names other h), List.append_nil]

theorem Steady.spares (hw : w.Steady drawn done)
    (canvas : ∀ graph, w'.canvas graph = w.canvas graph) (fresh : w'.page.Fresh)
    (spares : ∀ graph, w.page.Spares w'.page (w.canvas graph)) : w'.Steady drawn done where
  fresh := fresh
  waits graph := by
    rw [canvas]
    exact (hw.waits graph).spares (spares graph)
  names h := by
    rw [canvas, canvas] at h
    exact hw.names h
  apart h h' := by
    rw [canvas] at h h'
    exact hw.apart h h'

/-- The canvases have drawn some images and know of those that they show now. -/
structure Leads (w : Workbench) (drawn : GraphKind → List (Drawable × Bool))
    (done : GraphKind → Nat → Prop) (images : GraphKind → List Drawable) (w' : Workbench) : Prop
    extends w.Paints images w' where
  steady : w'.Steady (fun graph => drawn graph ++ w'.seen images graph) done

theorem Leads.trans (p : w.Leads drawn done images mid)
    (p' : mid.Leads (fun graph => drawn graph ++ mid.seen images graph) done images' w') :
    w.Leads drawn done (fun graph => images graph ++ images' graph) w' where
  toPaints := p.toPaints.trans p'.toPaints
  steady := by
    have seen_append (graph : GraphKind) :
        w'.seen (fun graph => images graph ++ images' graph) graph =
          mid.seen images graph ++ w'.seen images' graph := by
      rw [seen, seen, seen, List.map_append]
      congr 1
      exact List.map_congr_left fun d hd => by rw [p'.complete d (p.has graph d hd)]
    have steady := p'.steady
    simp only [List.append_assoc] at steady
    simpa only [seen_append] using steady

theorem Calm.leads (calm : w.Calm w') (hw : w.Steady drawn done) :
    w.Leads drawn done (fun _ => []) w' where
  toPaints := calm.paints
  steady := by
    simp only [seen, List.map_nil, List.append_nil]
    exact hw.spares calm.canvas (calm.grows.fresh hw.fresh) fun graph => calm.grows.spares _

theorem Steady.leads (hw : w.Steady drawn done) {ds : List Drawable} {c' : GraphCanvas}
    {page' : Page} (repaints : (w.canvas graph).Repaints w.page ds c' page')
    (has : ∀ d ∈ ds, w.page.Has d)
    (waits : c'.Waits page' (drawn graph ++ ds.map fun d => (d, page'.isComplete d)) (done graph))
    (spares : ∀ other, other ≠ graph → w.page.Spares page' (w.canvas other))
    (apart : ∀ other, other ≠ graph → ∀ number, c'.content = some (.image number) →
      (w.canvas other).content ≠ some (.image number)) :
    w.Leads drawn done (only graph ds) (w.withCanvas graph c' page') := by
  have paints := paints_withCanvas (fun other => hw.names) repaints has
  refine ⟨paints, ?_⟩
  constructor
  case fresh =>
    rw [page_withCanvas]
    exact repaints.fresh hw.fresh
  case waits =>
    intro other
    rw [canvas_withCanvas, seen, page_withCanvas, only]
    split
    · next h =>
        rw [h]
        exact waits
    · next ne =>
        rw [List.map_nil, List.append_nil]
        exact (hw.waits other).spares (spares other ne)
  case names =>
    intro one other h
    rw [paints.name, paints.name] at h
    exact hw.names h
  case apart =>
    intro one other number h h'
    rw [canvas_withCanvas] at h h'
    split at h <;> split at h'
    · next h₁ h₂ => exact h₁.trans h₂.symm
    · next ne => exact absurd h' (apart other ne number h)
    · next ne _ => exact absurd h (apart one ne number h')
    · exact hw.apart h h'

theorem Steady.sets (hw : w.Steady drawn done) {d : Drawable} (has : w.page.Has d)
    (apart : ∀ other, other ≠ graph → ∀ number, d = .image number →
      (w.canvas other).content ≠ some (.image number)) :
    w.Leads drawn done (only graph [d]) (w.perform (.call (.setContent graph d))) := by
  have takes := GraphCanvas.takes_setContent (hw.waits graph).idle w.page d
  refine hw.leads takes.repaints (List.forall_mem_singleton.mpr has)
    ((hw.waits graph).takes has takes) (fun other ne => ?_) fun other ne number hn => ?_
  · exact takes.spares (hw.waits other) (fun h => ne (hw.names h.symm)) (apart other ne)
  · exact apart other ne number (Option.some.inj (takes.repaints.content.symm.trans hn))

theorem Steady.draws (hw : w.Steady drawn done) {c' : GraphCanvas} {page' : Page}
    {calls : List (Surface.Call Float Drawable)}
    (draws : (w.canvas graph).Draws w.page calls c' page')
    (content : c'.content = (w.canvas graph).content)
    (images : calls.filterMap Surface.Call.image? = [] ∨
      calls.filterMap Surface.Call.image? = (w.canvas graph).content.toList) :
    w.Leads drawn done (only graph (calls.filterMap Surface.Call.image?))
      (w.withCanvas graph c' page') := by
  have repaints :
      (w.canvas graph).Repaints w.page (calls.filterMap Surface.Call.image?) c' page' := by
    refine GraphCanvas.Draws.repaints draws (.refl _) ?_ rfl
    rcases images with images | images
    · rw [images, content]
      rfl
    · rw [images, content]
      cases (w.canvas graph).content <;> rfl
  refine hw.leads repaints (fun d hd => ?_) ((hw.waits graph).draws draws content images)
    (fun other _ => w.page.spares_of_images draws.passes.images _) fun other ne number hn hn' => ?_
  · rcases images with images | images
    · rw [images] at hd
      cases hd
    · rw [images, Option.mem_toList] at hd
      exact (hw.waits graph).has d hd
  · rw [content] at hn
    exact ne (hw.apart hn' hn)

theorem Steady.shown (hw : w.Steady drawn done) {as bs : List (Activity Drawable)}
    (before : ∀ a ∈ as, a.isQuiet = true) (behind : ∀ b ∈ bs, b.isQuiet = true)
    {ast ptree : Drawable} (has : w.page.Has ast) (has' : w.page.Has ptree)
    (astApart : ∀ number, ast = .image number →
      (w.canvas .ptree).content ≠ some (.image number))
    (ptreeApart : ∀ number, ptree = .image number → ast ≠ .image number) :
    w.Leads drawn done (fun graph => [match graph with | .ast => ast | .ptree => ptree])
      ((as ++ [Activity.call (.setContent .ast ast), .call (.setContent .ptree ptree)] ++
        bs).foldl perform w) := by
  rw [List.foldl_append, List.foldl_append, List.foldl_cons, List.foldl_cons, List.foldl_nil]
  have start := w.calm_foldl before
  have l₁ := start.leads hw
  generalize as.foldl perform w = w₁ at start l₁ ⊢
  have l₂ := l₁.trans (l₁.steady.sets (has.mono l₁.length_le) fun
    | .ptree, _ => start.canvas .ptree ▸ astApart
    | .ast, ne => absurd rfl ne)
  generalize w₁.perform (.call (.setContent .ast ast)) = w₂ at l₂ ⊢
  have l₃ := l₂.trans (l₂.steady.sets (has'.mono l₂.length_le) fun
    | .ast, _ => fun number hn hn' =>
      ptreeApart number hn (Option.some.inj ((l₂.content .ast).symm.trans hn'))
    | .ptree, ne => absurd rfl ne)
  generalize w₂.perform (.call (.setContent .ptree ptree)) = w₃ at l₃ ⊢
  have l₄ := l₃.trans ((w₃.calm_foldl behind).leads l₃.steady)
  rwa [show (fun graph => ((([] ++ only .ast [ast] graph) ++ only .ptree [ptree] graph) ++ [])) =
    fun graph => [match graph with | .ast => ast | .ptree => ptree] by
      funext graph; cases graph <;> rfl] at l₄

/-- What the end of the decoding of an image does: either no canvas waited for it, or the one that
did has drawn it again. -/
inductive Loads (w : Workbench) (number : Nat) : Workbench → Prop
  | passed {page' : Page}
      (free : ∀ graph ticket, w.page.handler number = some ⟨(w.canvas graph).name, ticket⟩ →
        ¬(w.canvas graph).loads.Awaits ticket)
      (grows : (w.page.takeOnload number).2.Grows page') :
      Loads w number { w with page := page' }
  | repainted {graph : GraphKind} {ticket : Ticket}
      (due : w.page.handler number = some ⟨(w.canvas graph).name, ticket⟩)
      (awaits : (w.canvas graph).loads.Awaits ticket) :
      Loads w number
        (w.withCanvas graph ((w.canvas graph).reload (w.page.takeOnload number).2 ticket).1
          ((w.canvas graph).reload (w.page.takeOnload number).2 ticket).2)

theorem load_eq (w : Workbench) (number : Nat) :
    (w.load number).2 =
      let ast := w.ast.onLoad (w.page.takeOnload number).2 (w.page.handler number)
      let ptree := w.ptree.onLoad ast.2 (w.page.handler number)
      { w with ast := ast.1, ptree := ptree.1, page := ptree.2 } := rfl

theorem Steady.not_due (hw : w.Steady drawn done) {number : Nat} {ticket : Ticket}
    (due : w.page.handler number = some ⟨(w.canvas graph).name, ticket⟩) {other : GraphKind}
    (ne : other ≠ graph) (t : Ticket) :
    w.page.handler number ≠ some ⟨(w.canvas other).name, t⟩ := by
  rw [due, Ne, Option.some.injEq, LoadHandler.mk.injEq]
  exact fun h => ne (hw.names h.1.symm)

theorem Steady.load_of_handler (hw : w.Steady drawn done) {number : Nat} {ticket : Ticket}
    (due : w.page.handler number = some ⟨(w.canvas graph).name, ticket⟩) :
    (w.load number).2 = w.withCanvas graph
      ((w.canvas graph).onLoad (w.page.takeOnload number).2 (w.page.handler number)).1
      ((w.canvas graph).onLoad (w.page.takeOnload number).2 (w.page.handler number)).2 := by
  rw [load_eq]
  cases graph
  · have other := hw.not_due due (nofun : GraphKind.ptree ≠ .ast)
    simp only [w.ptree.onLoad_of_other _ other]
    rfl
  · have other := hw.not_due due (nofun : GraphKind.ast ≠ .ptree)
    simp only [w.ast.onLoad_of_other _ other]
    rfl

theorem Steady.loads (hw : w.Steady drawn done) (number : Nat) :
    w.Loads number (w.load number).2 := by
  by_cases h : ∃ graph ticket, w.page.handler number = some ⟨(w.canvas graph).name, ticket⟩
  · obtain ⟨graph, ticket, due⟩ := h
    rw [hw.load_of_handler due, due]
    by_cases awaits : (w.canvas graph).loads.Awaits ticket
    · rw [GraphCanvas.onLoad_of_awaits awaits]
      exact .repainted due awaits
    · rw [GraphCanvas.onLoad_of_not_awaits awaits]
      have page (page' : Page) :
          w.withCanvas graph (w.canvas graph) page' = { w with page := page' } := by
        cases graph <;> rfl
      rw [page]
      refine .passed (fun other t ht => ?_) (Page.grows_report _ _)
      rw [due, Option.some.injEq, LoadHandler.mk.injEq] at ht
      obtain ⟨name, rfl⟩ := ht
      rwa [hw.names name.symm]
  · have other (graph : GraphKind) (t : Ticket) :
        w.page.handler number ≠ some ⟨(w.canvas graph).name, t⟩ := fun h' => h ⟨graph, t, h'⟩
    rw [load_eq]
    simp only [w.ast.onLoad_of_other _ (other .ast), w.ptree.onLoad_of_other _ (other .ptree)]
    exact .passed (fun graph t ht => absurd ht (other graph t)) (.refl _)

theorem Steady.apart_of_gets (hw : w.Steady drawn done) (cached : w.Cached) {mid page : Page}
    {ast ptree : Drawable} (grows : w.page.Grows mid) (grows' : mid.Grows page)
    (first : Gets w.pipeline.astCache w.page mid ast)
    (second : Gets w.pipeline.ptreeCache mid page ptree) :
    (page.Has ast ∧ page.Has ptree) ∧
    (∀ number, ast = .image number → (w.canvas .ptree).content ≠ some (.image number)) ∧
    ∀ number, ptree = .image number → ast ≠ .image number := by
  have hle := grows.length_le
  have hle' := grows'.length_le
  have lt {graph : GraphKind} {n : Nat} (hn : (w.canvas graph).content = some (.image n)) :
      n < w.page.images.length := (hw.waits graph).has _ hn
  have first := first.shown_or_new (cached .ast)
  have second := second.shown_or_new (cached .ptree)
  refine ⟨⟨?_, ?_⟩, ?_, ?_⟩
  · rcases first with old | ⟨n, rfl, -, made⟩
    · exact ((hw.waits .ast).has ast old).mono (Nat.le_trans hle hle')
    · exact Nat.lt_of_lt_of_le made hle'
  · rcases second with old | ⟨n, rfl, -, made⟩
    · exact ((hw.waits .ptree).has ptree old).mono (Nat.le_trans hle hle')
    · exact made
  · rintro n rfl other
    rcases first with old | ⟨_, ⟨⟩, new, -⟩
    · cases hw.apart old other
    · exact Nat.not_lt.mpr new (lt other)
  · rintro n rfl rfl
    rcases first with old | ⟨_, ⟨⟩, new, made⟩ <;> rcases second with old' | ⟨_, ⟨⟩, new', -⟩
    · cases hw.apart old old'
    · have := lt old
      omega
    · have := lt old'
      omega
    · omega

theorem Steady.request (hw : w.Steady drawn done) (cached : w.Cached) {h : Happening}
    (request : h.isRequest = true) :
    ∃ images, w.Leads drawn done images (w.after h) ∧ (∀ graph, w.given graph h = images graph) ∧
      (∀ graph, images graph = [] → (w.after h).canvas graph = w.canvas graph) ∧
      (w.after h).Cached := by
  obtain ⟨p, page, answers, hafter⟩ := after_of_isRequest request hw.fresh
  have pipeline : (w.after h).pipeline = p := by rw [hafter, pipeline_foldl]
  rw [hafter] at pipeline ⊢
  unfold given
  generalize w.activities h = as at answers pipeline ⊢
  cases answers with
  | withheld quiet grows cache =>
      have calm : w.Calm (as.foldl perform { w with pipeline := p, page }) :=
        (w.calm_withPage p grows).trans (calm_foldl _ quiet)
      refine ⟨_, calm.leads hw, fun graph => content?_of_quiet graph quiet,
        fun graph _ => calm.canvas graph, fun graph spec image held => ?_⟩
      rw [pipeline, cache] at held
      rw [calm.canvas]
      exact cached graph spec image held
  | @shown as bs _ mid _ astSpec ptreeSpec ast ptree before behind grows grows' first second
      astCache ptreeCache =>
      have start := (w.calm_withPage p (grows.trans grows')).leads hw
      obtain ⟨⟨has, has'⟩, apart, apart'⟩ := hw.apart_of_gets cached grows grows' first second
      have shown := start.trans (start.steady.shown before behind has has' apart apart')
      refine ⟨_, shown, fun graph => ?_, fun graph empty => (nomatch empty), fun graph => ?_⟩
      · rw [List.filterMap_append, List.filterMap_append, content?_of_quiet graph before,
          content?_of_quiet graph behind]
        cases graph <;> rfl
      · rw [pipeline]
        have content := shown.content graph
        cases graph
        · rintro spec image held
          obtain ⟨⟩ := astCache.symm.trans held
          exact content
        · rintro spec image held
          obtain ⟨⟩ := ptreeCache.symm.trans held
          exact content

/-- What a load means for one canvas: nothing, or the one repaint that it waited for. -/
inductive Reloads (w : Workbench) (number : Nat) (graph : GraphKind) (ds : List Drawable) : Prop
  | passed (silent : ds = [])
      (free : ∀ ticket, w.page.handler number = some ⟨(w.canvas graph).name, ticket⟩ →
        ¬(w.canvas graph).loads.Awaits ticket)
      (canvas : (w.after (.load number)).canvas graph = w.canvas graph)
      (asked : w.asked graph (.load number) = [])
  | repainted {ticket : Ticket} (drawn : ds = [.image number])
      (shown : (w.canvas graph).content = some (.image number))
      (awaits : (w.canvas graph).loads.Awaits ticket)
      (settled : ∀ other, ¬((w.after (.load number)).canvas graph).loads.Awaits other)

theorem Steady.load_passed (hw : w.Steady drawn done) {number : Nat} {page' : Page}
    (free : ∀ graph ticket, w.page.handler number = some ⟨(w.canvas graph).name, ticket⟩ →
      ¬(w.canvas graph).loads.Awaits ticket)
    (grows : (w.page.takeOnload number).2.Grows page')
    (hafter : w.after (.load number) = { w with page := page' }) :
    w.Leads drawn done (fun _ => []) (w.after (.load number)) ∧
      ∀ graph, w.Reloads number graph [] := by
  have canvas (graph : GraphKind) : (w.after (.load number)).canvas graph = w.canvas graph := by
    rw [hafter]
    exact w.canvas_withPage w.pipeline page' graph
  have alike := w.page.matches_takeOnload number
  have length_eq := Nat.le_of_eq alike.length_eq.symm
  have callsOn (name : String) :
      (w.after (.load number)).page.callsOn name = w.page.callsOn name := by
    rw [hafter, grows.callsOn, alike.callsOn]
  refine ⟨⟨paints_nothing canvas ?_ (fun d hd => ?_) callsOn, ?_⟩, fun graph => ?_⟩
  · rw [hafter]
    exact Nat.le_trans length_eq grows.length_le
  · rw [hafter, grows.isComplete (hd.mono length_eq), alike.complete]
  · simp only [seen, List.map_nil, List.append_nil]
    refine hw.spares canvas ?_ fun graph => ?_
    · rw [hafter]
      exact grows.fresh hw.fresh
    · rw [hafter]
      exact .trans (Page.spares_takeOnload (free graph)) (grows.spares _)
  · exact .passed rfl (free graph) (canvas graph) (asked_eq_nil (callsOn _))

theorem Steady.load_repainted (hw : w.Steady drawn done) {number : Nat} {ticket : Ticket}
    (complete : w.page.isComplete (.image number) = true)
    (due : w.page.handler number = some ⟨(w.canvas graph).name, ticket⟩)
    (awaits : (w.canvas graph).loads.Awaits ticket)
    {c' : GraphCanvas} {page' : Page}
    (reload : (w.canvas graph).reload (w.page.takeOnload number).2 ticket = (c', page'))
    (hafter : w.after (.load number) = w.withCanvas graph c' page') :
    w.Leads drawn done (only graph [.image number]) (w.after (.load number)) ∧
      ∀ other, w.Reloads number other (only graph [.image number] other) := by
  have shown := (hw.waits graph).current number ticket due awaits
  have draws := GraphCanvas.draws_reload (hw.waits graph).idle (w.page.takeOnload number).2 ticket
  have content := (w.canvas graph).content_reload (w.page.takeOnload number).2 ticket
  rw [reload] at draws content
  have images : (w.canvas graph).pane.viewport.frameCalls.filterMap Surface.Call.image? =
      [.image number] := by
    rw [Viewport.images_frameCalls]
    exact congrArg Option.toList shown
  have repaints : (w.canvas graph).Repaints w.page [.image number] c' page' :=
    draws.repaints (w.page.matches_takeOnload number) (content.trans shown) images
  refine ⟨?_, fun other => ?_⟩
  · rw [hafter]
    refine hw.leads repaints ?_ ?_ (fun other ne => ?_) fun other ne n hn hn' => ?_
    · exact List.forall_mem_singleton.mpr ((hw.waits graph).has _ shown)
    · rw [List.map_singleton, repaints.complete, complete]
      exact (hw.waits graph).loaded due awaits complete draws content
    · exact .trans (Page.spares_takeOnload fun t ht => absurd ht (hw.not_due due ne t))
        (Page.spares_of_images draws.passes.images _)
    · rw [content] at hn
      exact ne (hw.apart hn' hn)
  · by_cases ne : other = graph
    · subst ne
      refine .repainted (if_pos rfl) shown awaits fun t => ?_
      rw [hafter, canvas_withCanvas, if_pos rfl, draws.loads]
      exact ContentLoads.not_awaits_loaded awaits t
    · refine .passed (if_neg ne) (fun t ht => absurd ht (hw.not_due due ne t)) ?_ (asked_eq_nil ?_)
      · rw [hafter, canvas_withCanvas, if_neg ne]
      · rw [hafter, page_withCanvas]
        exact repaints.others _ fun h => ne (hw.names h)

theorem Steady.load (hw : w.Steady drawn done) {number : Nat}
    (complete : w.page.isComplete (.image number) = true) :
    ∃ images, w.Leads drawn done images (w.after (.load number)) ∧
      ∀ graph, w.Reloads number graph (images graph) := by
  have loads := hw.loads number
  have hafter : w.after (.load number) = (w.load number).2 := rfl
  generalize (w.load number).2 = w' at loads hafter
  cases loads with
  | passed free grows => exact ⟨_, hw.load_passed free grows hafter⟩
  | repainted due awaits => exact ⟨_, hw.load_repainted complete due awaits rfl hafter⟩

end Workbench

end GraphLens
