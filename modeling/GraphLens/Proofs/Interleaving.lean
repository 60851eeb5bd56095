import GraphLens.Proofs.PaneSteps
import GraphLens.Proofs.Runs
import GraphLens.Proofs.Session

namespace GraphLens

open Pipeline

section Parts

variable {S A V β : Type}

/-- A part of a system that its own acts determine and no others touch. -/
structure Apart (step : S → A → S) (see : S → A → List β) (part : S → V) (own : A → Bool) :
    Prop where
  untouched {s : S} {a : A} (foreign : own a = false) : part (step s a) = part s ∧ see s a = []
  determined {s t : S} {a : A} (mine : own a = true) (same : part s = part t) :
    part (step s a) = part (step t a) ∧ see s a = see t a

theorem Apart.run {step : S → A → S} {see : S → A → List β} {part : S → V} {own : A → Bool}
    (h : Apart step see part own) {s t : S} (same : part s = part t) (acts : List A) :
    part (acts.foldl step s) = part ((acts.filter own).foldl step t) ∧
      observed step see s acts = observed step see t (acts.filter own) := by
  -- The two runs drift apart elsewhere, so they start from any states that agree on the part.
  induction acts generalizing s t with
  | nil => exact ⟨same, rfl⟩
  | cons a acts ih =>
      cases mine : own a with
      | true =>
          obtain ⟨hpart, hsee⟩ := h.determined mine same
          obtain ⟨hrun, hobserved⟩ := ih hpart
          rw [List.filter_cons_of_pos mine]
          exact ⟨hrun, by rw [observed, observed, hsee, hobserved]⟩
      | false =>
          obtain ⟨hpart, hsee⟩ := h.untouched (s := s) mine
          obtain ⟨hrun, hobserved⟩ := ih (hpart.trans same)
          rw [List.filter_cons_of_neg (by simp [mine]), observed, hsee]
          exact ⟨hrun, hobserved⟩

end Parts

namespace Pane

variable {σ α ι : Type} [Scalar α] [DrawingSurface σ α ι]

/-- How a pane is turned: its transforms and its pointer. -/
def handling (pane : Pane σ α ι) : Transform α × List (Transform α) × Pointer α :=
  (pane.viewport.transform, pane.viewport.tracker.stack, pane.pointer)

theorem handling_setContent (pane : Pane σ α ι) (image : ι) :
    (pane.after (.setContent image)).handling = pane.handling := by
  let v : Viewport σ α ι := { pane.viewport with content := some image }
  change (v.redraw.transform, v.redraw.tracker.stack, pane.pointer) = _
  rw [v.transform_redraw, v.stack_redraw]
  rfl

theorem handle_congr {pane pane' : Pane σ α ι} (h : pane.handling = pane'.handling)
    (event : Pointer.Event α) :
    (pane.after (.pointer event)).handling = (pane'.after (.pointer event)).handling ∧
      (pane.handle event).2.1 = (pane'.handle event).2.1 := by
  -- The pointer sees the transform and no more, so it may be handled over the transform alone.
  have alone (pane : Pane σ α ι) :
      pane.pointer.handle pane.viewport.transform event =
        (pane.pointer.handle pane.viewport event).map Viewport.transform :=
    Pointer.handle_map Viewport.unnoticed_transform pane.pointer pane.viewport event
  have hstack (pane : Pane σ α ι) :
      (pane.after (.pointer event)).viewport.tracker.stack = pane.viewport.tracker.stack :=
    (Viewport.keeps_of_reaches (pane.pointer.steps_handle pane.viewport event).reaches).1
  simp only [handling, Prod.mk.injEq] at h ⊢
  obtain ⟨htransform, hsaved, hpointer⟩ := h
  have houtcome : (pane.pointer.handle pane.viewport event).map Viewport.transform =
      (pane'.pointer.handle pane'.viewport event).map Viewport.transform := by
    rw [← alone, ← alone, htransform, hpointer]
  refine ⟨⟨congrArg (·.target) houtcome, ?_, congrArg (·.pointer) houtcome⟩,
    congrArg (·.response) houtcome⟩
  rw [hstack, hstack, hsaved]

theorem configure_congr {pane pane' : Pane σ α ι} (h : pane.handling = pane'.handling)
    (config : PanZoomConfig α) :
    (pane.after (.setConfig config)).handling = (pane'.after (.setConfig config)).handling := by
  simp only [handling, Prod.mk.injEq] at h ⊢
  obtain ⟨htransform, hsaved, hpointer⟩ := h
  exact ⟨htransform, hsaved, congrArg (fun p => { p with config := config }) hpointer⟩

end Pane

namespace Views

variable {σ α ι : Type} [Scalar α] [DrawingSurface σ α ι]

omit [Scalar α] [DrawingSurface σ α ι] in
theorem pane_withPane (v : Views σ α ι) (graph other : GraphKind) (pane : Pane σ α ι) :
    (v.withPane graph pane).pane other = if graph = other then pane else v.pane other := by
  cases graph <;> cases other <;> rfl

/-- All that the views show, but for how their panes are turned. -/
def shown (v : Views σ α ι) :
    TextList × TextList × Option ι × Option ι × List (Status × String) :=
  (v.tokens, v.analysis, v.ast.viewport.content, v.ptree.viewport.content, v.statuses)

theorem handling_perform (v : Views σ α ι) (call : Call ι) (graph : GraphKind) :
    ((v.perform call).pane graph).handling = (v.pane graph).handling := by
  cases call with
  | setContent other image =>
      rw [perform, pane_withPane]
      split
      · next same =>
          subst same
          exact Pane.handling_setContent _ image
      · rfl
  | clear list | append list entry => cases list <;> cases graph <;> rfl
  | compile | render | notify => cases graph <;> rfl

theorem shown_perform_congr {v w : Views σ α ι} (h : v.shown = w.shown) (call : Call ι) :
    (v.perform call).shown = (w.perform call).shown := by
  simp only [shown, Prod.mk.injEq] at h
  obtain ⟨htokens, hanalysis, hast, hptree, hstatuses⟩ := h
  cases call with
  | setContent graph image =>
      cases graph <;>
        simp [shown, perform, withPane, pane, Pane.perform, Viewport.setContent,
          Viewport.content_redraw, *]
  | clear list | append list entry => cases list <;> simp [shown, perform, mapList, *]
  | compile | render | notify => simp [shown, perform, *]

theorem shown_performAll_congr {v w : Views σ α ι} (h : v.shown = w.shown)
    (as : List (Activity ι)) : (v.performAll as).shown = (w.performAll as).shown := by
  rw [performAll_eq_foldl, performAll_eq_foldl]
  induction calls as generalizing v w with
  | nil => exact h
  | cons c cs ih => exact ih (shown_perform_congr h c)

omit [Scalar α] [DrawingSurface σ α ι] in
theorem shown_withPane (v : Views σ α ι) (graph : GraphKind) {pane : Pane σ α ι}
    (h : pane.viewport.content = (v.pane graph).viewport.content) :
    (v.withPane graph pane).shown = v.shown := by
  cases graph with
  | ast => simp [shown, withPane, h, Views.pane]
  | ptree => simp [shown, withPane, h, Views.pane]

end Views

namespace Session

variable {ε σ α ι : Type} [Scalar α] [DrawingSurface σ α ι] [GraphRenderer ε ι] [Compiler ε]

inductive Act (α : Type) where
  | pointer (graph : GraphKind) (event : Pointer.Event α)
  | configure (graph : GraphKind) (config : PanZoomConfig α)
  | request (r : Request)

def Act.isOn (graph : GraphKind) : Act α → Bool
  | .pointer other _ | .configure other _ => other = graph
  | .request _ => false

def Act.isRequest : Act α → Bool
  | .request _ => true
  | .pointer _ _ | .configure _ _ => false

omit [GraphRenderer ε ι] [Compiler ε] in
def onPane (s : Session ε σ α ι) (graph : GraphKind) (op : Pane.Op α ι) : Session ε σ α ι :=
  { s with views := s.views.withPane graph ((s.views.pane graph).after op) }

def act (s : Session ε σ α ι) : Act α → Session ε σ α ι
  | .pointer graph event => s.onPane graph (.pointer event)
  | .configure graph config => s.onPane graph (.setConfig config)
  | .request r => s.after r

def responses (graph : GraphKind) (s : Session ε σ α ι) : Act α → List (Pointer.Response α)
  | .pointer other event =>
    if other = graph then [((s.views.pane graph).handle event).2.1] else []
  | .configure _ _ | .request _ => []

def exchanges (s : Session ε σ α ι) : Act α → List (Reply × List (Call ι))
  | .request r => [(s.reply r, calls (s.activities r))]
  | .pointer _ _ | .configure _ _ => []

theorem handling_after (s : Session ε σ α ι) (r : Request) (graph : GraphKind) :
    ((s.after r).views.pane graph).handling = (s.views.pane graph).handling := by
  have performed (as : List (Activity ι)) :
      ((s.views.performAll as).pane graph).handling = (s.views.pane graph).handling := by
    rw [Views.performAll_eq_foldl]
    generalize s.views = v
    induction calls as generalizing v with
    | nil => rfl
    | cons c cs ih => rw [List.foldl_cons, ih, Views.handling_perform]
  cases r with
  | begin => rfl
  | run source => exact performed _
  | complete ticket answer => exact performed _

omit [GraphRenderer ε ι] [Compiler ε] in
theorem pane_onPane (s : Session ε σ α ι) (graph other : GraphKind) (op : Pane.Op α ι) :
    (s.onPane graph op).views.pane other =
      if graph = other then (s.views.pane graph).after op else s.views.pane other :=
  Views.pane_withPane _ _ _ _

theorem apart_pane (graph : GraphKind) :
    Apart (act : Session ε σ α ι → Act α → Session ε σ α ι) (responses graph)
      (fun s => (s.views.pane graph).handling) (Act.isOn graph) where
  untouched {s a} foreign := by
    cases a with
    | request r => exact ⟨s.handling_after r graph, rfl⟩
    | pointer other event =>
        have hother : other ≠ graph := of_decide_eq_false foreign
        simp only [act, pane_onPane, responses, if_neg hother, and_self]
    | configure other config =>
        have hother : other ≠ graph := of_decide_eq_false foreign
        simp only [act, pane_onPane, responses, if_neg hother, and_self]
  determined {s t a} mine same := by
    cases a with
    | request r => cases mine
    | pointer other event =>
        obtain rfl : other = graph := of_decide_eq_true mine
        obtain ⟨hpart, hresponse⟩ := Pane.handle_congr same event
        simp only [act, pane_onPane, responses, if_true, hpart, hresponse, and_self]
    | configure other config =>
        obtain rfl : other = graph := of_decide_eq_true mine
        simp only [act, pane_onPane, responses, if_true, Pane.configure_congr same config,
          and_self]

theorem apart_pipeline :
    Apart (act : Session ε σ α ι → Act α → Session ε σ α ι) exchanges
      (fun s => (s.pipeline, s.env, s.views.shown)) Act.isRequest where
  untouched {s a} foreign := by
    cases a with
    | request r => cases foreign
    | pointer graph event =>
        have hshown := s.views.shown_withPane graph
          ((s.views.pane graph).content_after_pointer event)
        exact ⟨congrArg (s.pipeline, s.env, ·) hshown, rfl⟩
    | configure graph config =>
        let pane := (s.views.pane graph).after (.setConfig config)
        have same : pane.viewport.content = (s.views.pane graph).viewport.content := rfl
        have hshown := s.views.shown_withPane graph same
        exact ⟨congrArg (s.pipeline, s.env, ·) hshown, rfl⟩
  determined {s t a} mine same := by
    cases a with
    | request r =>
        obtain ⟨p, env, v⟩ := s
        obtain ⟨p', env', w⟩ := t
        simp only [Prod.mk.injEq] at same
        obtain ⟨rfl, rfl, hshown⟩ := same
        refine ⟨?_, ?_⟩
        · cases r with
          | begin => exact congrArg (_, _, ·) hshown
          | run source => exact congrArg (_, _, ·) (Views.shown_performAll_congr hshown _)
          | complete ticket answer =>
              exact congrArg (_, _, ·) (Views.shown_performAll_congr hshown _)
        · cases r with
          | begin | run | complete => rfl
    | pointer other event => cases mine
    | configure other config => cases mine

def playActs (s : Session ε σ α ι) (acts : List (Act α)) : Session ε σ α ι := acts.foldl act s

/-- Whatever happens to the pointers and whatever is requested, in any order: the transforms, the
saved transforms, the pointer and the responses of each pane are those of its own pointer acts
alone; and the lists, images and statuses, the caches, the compiler and the renderer, the replies
to all requests and the calls made for them are those of the requests alone. -/
theorem pointers_and_requests_do_not_interfere (s : Session ε σ α ι) (acts : List (Act α)) :
    (∀ graph,
      let own := acts.filter (Act.isOn graph)
      let pane := (s.playActs acts).views.pane graph
      let alone := (s.playActs own).views.pane graph
      pane.viewport.transform = alone.viewport.transform ∧
      pane.viewport.tracker.stack = alone.viewport.tracker.stack ∧
      pane.pointer = alone.pointer ∧
      observed act (responses graph) s acts = observed act (responses graph) s own) ∧
    let own := acts.filter Act.isRequest
    let now := s.playActs acts
    let alone := s.playActs own
    now.pipeline = alone.pipeline ∧ now.env = alone.env ∧
    now.views.tokens = alone.views.tokens ∧ now.views.analysis = alone.views.analysis ∧
    (∀ graph, (now.views.pane graph).viewport.content = (alone.views.pane graph).viewport.content) ∧
    now.views.statuses = alone.views.statuses ∧
    observed act exchanges s acts = observed act exchanges s own := by
  refine ⟨fun graph => ?_, ?_⟩
  · intro own pane alone
    obtain ⟨hpart, hresponses⟩ := (apart_pane graph).run (s := s) rfl acts
    obtain ⟨htransform, hrest⟩ := Prod.mk.inj hpart
    obtain ⟨hstack, hpointer⟩ := Prod.mk.inj hrest
    exact ⟨htransform, hstack, hpointer, hresponses⟩
  · intro own now alone
    obtain ⟨hpart, hexchanges⟩ := apart_pipeline.run (s := s) rfl acts
    simp only [Views.shown, Prod.mk.injEq] at hpart
    obtain ⟨hpipeline, henv, htokens, hanalysis, hast, hptree, hstatuses⟩ := hpart
    refine ⟨hpipeline, henv, htokens, hanalysis, fun graph => ?_, hstatuses, hexchanges⟩
    cases graph with
    | ast => exact hast
    | ptree => exact hptree

end Session

end GraphLens
