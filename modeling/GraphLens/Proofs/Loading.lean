import GraphLens.Proofs.Repaints
import GraphLens.Proofs.Runs

namespace GraphLens

open Pipeline

namespace Workbench

def loadDrawings (w : Workbench) (graph : GraphKind) : Happening → List (Drawable × Bool)
  | .load number => w.drawings graph (.load number)
  | _ => []

/-- A load comes after the decoding, and nothing is due for a new image. -/
def Allows (w : Workbench) : Happening → Prop
  | .load number => w.page.isComplete (.image number) = true
  | .rescript _ newImage => ∀ image, newImage = .ok image → image.onload = none
  | _ => True

def Orderly (w : Workbench) : List Happening → Prop
  | [] => True
  | h :: log => w.Allows h ∧ (w.after h).Orderly log

/-- Nothing is on show, and nothing is due. -/
structure New (w : Workbench) : Prop where
  names : w.ast.name ≠ w.ptree.name
  fresh : w.page.Fresh
  free : ∀ image ∈ w.page.images, image.onload = none
  empty (graph : GraphKind) : (w.canvas graph).content = none
  idle (graph : GraphKind) : (w.canvas graph).context.pending = #[]
  loads (graph : GraphKind) : ∃ target, (w.canvas graph).loads = .ofTarget target
  uncached (graph : GraphKind) : w.pipeline.cache graph = .empty

variable {w w' : Workbench} {graph : GraphKind} {h : Happening}
  {drawn : GraphKind → List (Drawable × Bool)} {done : GraphKind → Nat → Prop}
  {images : GraphKind → List Drawable}

theorem New.cached (new : w.New) : w.Cached := by
  intro graph spec image held
  rw [new.uncached] at held
  cases held

theorem New.steady (new : w.New) : w.Steady (fun _ => []) fun _ _ => False where
  fresh := new.fresh
  waits graph := by
    have unhandled (n : Nat) : w.page.handler n = none :=
      Option.bind_eq_none_iff.mpr fun image hi => new.free image (List.mem_of_getElem? hi)
    obtain ⟨target, loads⟩ := new.loads graph
    refine ⟨new.idle graph, ?_, ?_, ?_, ?_, nofun, ?_⟩
    · rw [loads]
      exact ContentLoads.sound_ofTarget target
    · rw [new.empty]
      exact nofun
    · intro n t due
      rw [unhandled] at due
      cases due
    · intro n t due
      rw [unhandled] at due
      cases due
    · rw [new.empty]
      exact nofun
  names {graph other} h := by
    cases graph <;> cases other
    · rfl
    · exact absurd h new.names
    · exact absurd h.symm new.names
    · rfl
  apart h := by
    rw [new.empty] at h
    cases h

theorem Steady.finish (hw : w.Steady drawn done) {done' : GraphKind → Nat → Prop}
    (new : ∀ graph number, done' graph number → done graph number ∨
      w.page.isComplete (.image number) = true ∧ ((w.canvas graph).content = some (.image number) →
        (drawn graph).getLast? = some (.image number, true))) : w.Steady drawn done' where
  fresh := hw.fresh
  waits graph := (hw.waits graph).finish (new graph)
  names := hw.names
  apart := hw.apart

/-- What one happening does. -/
structure Turn (w : Workbench) (drawn : GraphKind → List (Drawable × Bool))
    (done : GraphKind → Nat → Prop) (h : Happening) : Prop where
  steady : (w.after h).Steady (fun graph => drawn graph ++ w.drawings graph h) fun graph number =>
    done graph number ∨ h = .load number ∨ (.image number, true) ∈ w.settings graph h
  cached : (w.after h).Cached
  complete (d : Drawable) (has : w.page.Has d) :
    (w.after h).page.isComplete d = w.page.isComplete d ∨ ∀ graph, w.asked graph h = []
  loads (graph : GraphKind) (unset : w.settings graph h = []) :
    w.loadDrawings graph h = [] ∧
      ((w.after h).canvas graph).loads = (w.canvas graph).loads ∨
    (w.loadDrawings graph h).length = 1 ∧ (∃ ticket, (w.canvas graph).loads.Awaits ticket) ∧
      ∀ ticket, ¬((w.after h).canvas graph).loads.Awaits ticket

theorem Leads.drawn_eq (leads : w.Leads drawn done images (w.after h)) (graph : GraphKind) :
    w.drawings graph h = (w.after h).seen images graph := leads.toPaints.drawings graph

theorem Cached.of_content (cached : w.Cached) (pipeline : w'.pipeline = w.pipeline)
    (content : ∀ graph, (w'.canvas graph).content = (w.canvas graph).content) : w'.Cached := by
  intro graph spec image held
  rw [pipeline] at held
  rw [content]
  exact cached graph spec image held

theorem Steady.turn_of_unset
    (steady : (w.after h).Steady (fun graph => drawn graph ++ w.drawings graph h) done)
    (cached : (w.after h).Cached)
    (complete : ∀ d, w.page.Has d →
      (w.after h).page.isComplete d = w.page.isComplete d ∨ ∀ graph, w.asked graph h = [])
    (activities : w.activities h = []) (load : ∀ n, h ≠ .load n)
    (loads : ∀ graph, ((w.after h).canvas graph).loads = (w.canvas graph).loads) :
    w.Turn drawn done h where
  steady := by
    refine steady.finish fun graph n => ?_
    rintro (old | now | set)
    · exact .inl old
    · exact absurd now (load n)
    · rw [settings, given, activities] at set
      cases set
  cached := cached
  complete := complete
  loads graph _ := by
    refine .inl ⟨?_, loads graph⟩
    cases h with
    | load n => exact absurd rfl (load n)
    | run | begin | complete | rescript | decode | redraw | pointer => rfl

theorem Steady.turn_request (hw : w.Steady drawn done) (cached : w.Cached)
    (request : h.isRequest = true) : w.Turn drawn done h := by
  obtain ⟨images, leads, given, unset, cached'⟩ := hw.request cached request
  constructor
  case steady =>
    simp only [leads.drawn_eq]
    refine leads.steady.finish fun graph n => ?_
    rintro (old | now | set)
    · exact .inl old
    · rw [now] at request
      cases request
    · rw [settings, given, List.mem_map] at set
      obtain ⟨d, hd, hset⟩ := set
      obtain ⟨rfl, complete⟩ := Prod.mk.inj hset
      refine .inr ⟨complete, fun hn => ?_⟩
      cases hlast : (images graph).getLast? with
      | none => cases List.getLast?_eq_none_iff.mp hlast ▸ hd
      | some last =>
          rw [leads.content, hlast, Option.some_or] at hn
          obtain rfl := Option.some.inj hn
          rw [seen, List.getLast?_append, List.getLast?_map, hlast, Option.map_some,
            Option.some_or, complete]
  case cached => exact cached'
  case complete => exact fun d has => .inl (leads.complete d has)
  case loads =>
    intro graph none
    rw [settings, given, List.map_eq_nil_iff] at none
    refine .inl ⟨?_, by rw [unset graph none]⟩
    cases h with
    | run | begin | complete => rfl
    | rescript | decode | load | redraw | pointer => cases request

theorem Steady.turn_load (hw : w.Steady drawn done) (cached : w.Cached) {number : Nat}
    (complete : w.page.isComplete (.image number) = true) : w.Turn drawn done (.load number) := by
  obtain ⟨images, leads, reloads⟩ := hw.load complete
  have whole : (w.after (.load number)).page.isComplete (.image number) = true := by
    rw [leads.complete _ (Page.has_of_isComplete complete)]
    exact complete
  constructor
  case steady =>
    simp only [leads.drawn_eq]
    refine leads.steady.finish fun graph n => ?_
    rintro (old | ⟨⟨⟩⟩ | ⟨⟨⟩⟩)
    · exact .inl old
    · refine .inr ⟨whole, fun hn => ?_⟩
      rw [seen]
      cases reloads graph with
      | passed silent free canvas asked =>
          rw [canvas] at hn
          rw [silent, List.map_nil, List.append_nil]
          rcases (hw.waits graph).last number hn with ⟨last, -⟩ | ⟨-, -, ticket, due, awaits⟩
          · exact last
          · exact absurd awaits (free ticket due)
      | repainted drawn shown awaits settled =>
          rw [drawn, List.map_singleton, List.getLast?_concat, whole]
  case cached =>
    refine cached.of_content rfl fun graph => ?_
    rw [leads.content]
    cases reloads graph with
    | passed silent => rw [silent, List.getLast?_nil, Option.none_or]
    | repainted drawn shown => rw [drawn, shown]; rfl
  case complete => exact fun d has => .inl (leads.complete d has)
  case loads =>
    intro graph _
    rw [loadDrawings, leads.drawn_eq, seen]
    cases reloads graph with
    | passed silent free canvas asked => exact .inl ⟨by rw [silent, List.map_nil], by rw [canvas]⟩
    | repainted drawn shown awaits settled =>
        exact .inr ⟨by rw [drawn]; rfl, ⟨_, awaits⟩, settled⟩

theorem Steady.turn_draws (hw : w.Steady drawn done) (cached : w.Cached) {c' : GraphCanvas}
    {page' : Page} {calls : List (Surface.Call Float Drawable)}
    (draws : (w.canvas graph).Draws w.page calls c' page')
    (content : c'.content = (w.canvas graph).content)
    (images : calls.filterMap Surface.Call.image? = [] ∨
      calls.filterMap Surface.Call.image? = (w.canvas graph).content.toList)
    (hafter : w.after h = w.withCanvas graph c' page') (activities : w.activities h = [])
    (load : ∀ n, h ≠ .load n) : w.Turn drawn done h := by
  have leads := hw.draws draws content images
  rw [← hafter] at leads
  refine Steady.turn_of_unset ?_ (cached.of_content ?_ fun other => ?_)
    (fun d has => .inl (leads.complete d has)) activities load fun other => ?_
  · simp only [leads.drawn_eq]
    exact leads.steady
  · rw [hafter, pipeline_withCanvas]
  · rw [hafter, canvas_withCanvas]
    split
    · next h => rw [content, h]
    · rfl
  · rw [hafter, canvas_withCanvas]
    split
    · next h => rw [draws.loads, h]
    · rfl

theorem Steady.turn_spares (hw : w.Steady drawn done) (cached : w.Cached) (page' : Page)
    (fresh : page'.Fresh) (spares : ∀ c, w.page.Spares page' c) (calls : page'.calls = w.page.calls)
    (hafter : w.after h = { w with page := page' }) (activities : w.activities h = [])
    (load : ∀ n, h ≠ .load n) : w.Turn drawn done h := by
  have canvas (graph : GraphKind) : (w.after h).canvas graph = w.canvas graph := by
    rw [hafter]
    exact w.canvas_withPage w.pipeline page' graph
  have asked (graph : GraphKind) : w.asked graph h = [] :=
    asked_eq_nil (by rw [hafter, Page.callsOn, calls]; rfl)
  refine Steady.turn_of_unset ?_ (cached.of_content ?_ fun graph => ?_) (fun d _ => .inr asked)
    activities load fun graph => ?_
  · simp only [drawings, asked, List.filterMap_nil, List.map_nil, List.append_nil]
    refine hw.spares canvas ?_ fun graph => ?_
    · rw [hafter]
      exact fresh
    · rw [hafter]
      exact spares _
  · rw [hafter]
  · rw [canvas]
  · rw [canvas]

theorem Steady.turn (hw : w.Steady drawn done) (cached : w.Cached) (allows : w.Allows h) :
    w.Turn drawn done h := by
  cases h with
  | run | begin | complete => exact hw.turn_request cached rfl
  | load n => exact hw.turn_load cached allows
  | redraw graph =>
      have idle := (hw.waits graph).idle
      exact hw.turn_draws cached (GraphCanvas.draws_redraw idle w.page)
        (GraphCanvas.content_redraw _ _) (.inr (Viewport.images_frameCalls _)) rfl rfl nofun
  | pointer graph event =>
      have idle := (hw.waits graph).idle
      obtain ⟨calls, draws, images⟩ := GraphCanvas.draws_handle idle w.page event
      exact hw.turn_draws cached draws (GraphCanvas.content_handle _ _ event) images rfl rfl nofun
  | rescript script newImage =>
      exact hw.turn_spares cached { w.page with script, newImage } allows
        (w.page.spares_of_images rfl) rfl rfl rfl nofun
  | decode n =>
      exact hw.turn_spares cached (w.page.decode n) hw.fresh (w.page.spares_decode n) rfl rfl rfl
        nofun

theorem Steady.play (hw : w.Steady drawn done) (cached : w.Cached) {log : List Happening}
    (orderly : w.Orderly log) :
    (w.play log).Steady (fun graph => drawn graph ++ observed after (drawings · graph) w log)
      (fun graph n => done graph n ∨ .load n ∈ log ∨
        (.image n, true) ∈ observed after (settings · graph) w log) ∧
    (w.play log).Cached := by
  induction log generalizing w drawn done with
  | nil =>
      refine ⟨?_, cached⟩
      simpa [observed, Workbench.play] using hw
  | cons h log ih =>
      have turn := hw.turn cached orderly.1
      obtain ⟨steady, cached'⟩ := ih turn.steady turn.cached orderly.2
      refine ⟨?_, cached'⟩
      simp only [observed, ← List.append_assoc]
      refine steady.finish fun graph n known => .inl ?_
      rw [List.mem_cons, List.mem_append] at known
      rcases known with old | (⟨rfl⟩ | past) | now | past
      · exact .inl (.inl old)
      · exact .inl (.inr (.inl rfl))
      · exact .inr (.inl past)
      · exact .inl (.inr (.inr now))
      · exact .inr (.inr past)

theorem Steady.loadDrawings_le (hw : w.Steady drawn done) (cached : w.Cached)
    {log : List Happening} (orderly : w.Orderly log)
    (unset : observed after (settings · graph) w log = []) :
    (observed after (loadDrawings · graph) w log).length ≤ 1 ∧
      ((∀ ticket, ¬(w.canvas graph).loads.Awaits ticket) →
        observed after (loadDrawings · graph) w log = []) := by
  induction log generalizing w drawn done with
  | nil => exact ⟨Nat.zero_le _, fun _ => rfl⟩
  | cons h log ih =>
      have turn := hw.turn cached orderly.1
      obtain ⟨now, later⟩ := List.append_eq_nil_iff.mp unset
      obtain ⟨le, none⟩ := ih turn.steady turn.cached orderly.2 later
      rw [observed, List.length_append]
      rcases turn.loads graph now with ⟨silent, loads⟩ | ⟨drawn, ⟨ticket, awaits⟩, settled⟩
      · rw [silent, ← loads]
        exact ⟨(Nat.zero_add _).symm ▸ le, none⟩
      · rw [drawn, none settled]
        exact ⟨Nat.le_refl 1, fun idle => absurd awaits (idle ticket)⟩

theorem Orderly.append {before rest : List Happening} (h : w.Orderly (before ++ rest)) :
    w.Orderly before ∧ (w.play before).Orderly rest := by
  induction before generalizing w with
  | nil => exact ⟨trivial, h⟩
  | cons b before ih => exact ⟨⟨h.1, (ih h.2).1⟩, (ih h.2).2⟩

/-- Only a pipeline sets what the two canvases show, and the load of an image comes after its
decoding. Once the load of the image on show is over, or if it was decoded already when it was set,
the last thing drawn is that image, and it was whole then. The load of an image is nothing to a
canvas that does not show it, and from one setting of a canvas to the next, loads draw at most once.
The last part is why the state afterwards tells what was whole: where anything is drawn, no image
that was there before changes in that. -/
theorem decoded_content_is_repainted (new : w.New) {log : List Happening}
    (orderly : w.Orderly log) (graph : GraphKind) :
    let w' := w.play log
    (∀ number, (w'.canvas graph).content = some (.image number) →
      (.load number ∈ log ∨ (.image number, true) ∈ observed after (settings · graph) w log) →
      (observed after (drawings · graph) w log).getLast? = some (.image number, true)) ∧
    (∀ number, w'.Allows (.load number) → w'.asked graph (.load number) = [] ∨
      (w'.canvas graph).content = some (.image number) ∧
        w'.drawings graph (.load number) = [(.image number, true)]) ∧
    (∀ before rest, log = before ++ rest →
      observed after (settings · graph) (w.play before) rest = [] →
      (observed after (loadDrawings · graph) (w.play before) rest).length ≤ 1) ∧
    ∀ h, w'.Allows h → ∀ d, w'.page.Has d →
      (w'.after h).page.isComplete d = w'.page.isComplete d ∨ w'.asked graph h = [] := by
  obtain ⟨steady, cached⟩ := new.steady.play new.cached orderly
  refine ⟨fun number shown known => ?_, fun number complete => ?_, ?_, fun h allows d has => ?_⟩
  · rcases (steady.waits graph).last number shown with ⟨last, -⟩ | ⟨unknown, -⟩
    · exact last
    · exact absurd (.inr known) unknown
  · obtain ⟨images, leads, reloads⟩ := steady.load complete
    cases reloads graph with
    | passed silent free canvas asked => exact .inl asked
    | repainted drawn shown awaits settled =>
        refine .inr ⟨shown, ?_⟩
        rw [leads.drawn_eq, seen, drawn, List.map_singleton,
          leads.complete _ (Page.has_of_isComplete complete)]
        exact congrArg (fun whole => [(_, whole)]) complete
  · rintro before rest rfl unset
    obtain ⟨first, second⟩ := orderly.append
    obtain ⟨steady, cached⟩ := new.steady.play new.cached first
    exact (steady.loadDrawings_le cached second unset).1
  · exact ((steady.turn cached allows).complete d has).imp_right fun asked => asked graph

theorem image_set_again_while_decoding_is_repainted :
    let page : Page :=
      .ofScript (fun _ _ => .returns (.text "<svg/>")) (.ok ⟨none, false, false, none⟩)
    let canvas (name : String) (target : Target) : GraphCanvas :=
      ((⟨name, .ofSurface ⟨300, 200, #[]⟩ .standard, .ofTarget target⟩ : GraphCanvas).flush page).1
    let list : ElementList := ⟨.ofTag "div", .creates⟩
    let w : Workbench :=
      ⟨page, .initial, canvas "ast" .ast, canvas "ptree" .ptree, list, list, .ofTag "p"⟩
    let answer : Except CompilerFailure String := .ok (CompileResult.toJson ⟨["x"], "a", "t", []⟩)
    let log : List Happening :=
      [.begin, .complete ⟨1⟩ answer, .begin, .complete ⟨2⟩ answer, .decode 0, .load 0]
    w.New ∧ w.Orderly log ∧ ((w.play log).canvas .ast).content = some (.image 0) ∧
      (observed after (drawings · .ast) w log).getLast? = some (.image 0, true) := by
  intro page canvas list w answer log
  have new : w.New := by
    refine ⟨by decide, ?_, nofun, fun graph => ?_, fun graph => ?_, fun graph => ?_,
      fun graph => ?_⟩
    · rintro image ⟨⟩
      rfl
    · cases graph <;> rfl
    · cases graph <;> rfl
    · cases graph <;> exact ⟨_, rfl⟩
    · cases graph <;> rfl
  have orderly : w.Orderly log := by
    refine ⟨trivial, trivial, trivial, trivial, trivial, ?_, trivial⟩
    change Page.isComplete _ _ = true
    decide +kernel
  have shown : ((w.play log).canvas .ast).content = some (.image 0) := by
    decide +kernel
  exact ⟨new, orderly, shown,
    (decoded_content_is_repainted new orderly .ast).1 0 shown (.inl (by simp [log]))⟩

end Workbench

end GraphLens
