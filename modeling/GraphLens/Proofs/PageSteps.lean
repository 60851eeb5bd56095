import GraphLens.Page.GraphCanvas
import GraphLens.Proofs.PaneSteps

namespace GraphLens

namespace Page

def isComplete (page : Page) : Drawable → Bool
  | .image number => page.images[number]?.any (·.complete)
  | .canvas _ _ => true

def Has (page : Page) : Drawable → Prop
  | .image number => number < page.images.length
  | .canvas _ _ => True

def handler (page : Page) (number : Nat) : Option LoadHandler :=
  page.images[number]?.bind (·.onload)

def Call.on (canvas : String) : Call → Option (Surface.Call Float Drawable)
  | .onCanvas name call => if name = canvas then some call else none
  | _ => none

def callsOn (page : Page) (canvas : String) : List (Surface.Call Float Drawable) :=
  page.calls.toList.filterMap (Call.on canvas)

def Fresh (page : Page) : Prop := ∀ image, page.newImage = .ok image → image.onload = none

theorem callsOn_record (page : Page) (call : Call) (canvas : String) :
    (page.record call).callsOn canvas = page.callsOn canvas ++ (call.on canvas).toList := by
  rw [callsOn, record, Array.toList_push, List.filterMap_append]
  rfl

theorem images_modifyImage (page : Page) (number other : Nat) (f : PageImage → PageImage) :
    (page.modifyImage number f).images[other]? =
      if number = other then page.images[other]?.map f else page.images[other]? := by
  rw [modifyImage, List.getElem?_modify]
  split <;> simp

theorem has_of_isComplete {page : Page} {d : Drawable} (h : page.isComplete d = true) :
    page.Has d := by
  cases d with
  | canvas width height => exact trivial
  | image n =>
      obtain ⟨image, hi, -⟩ := (Option.any_eq_true _ _).mp h
      exact (List.getElem?_eq_some_iff.mp hi).1

theorem Has.mono {page page' : Page} {d : Drawable} (h : page.Has d)
    (le : page.images.length ≤ page'.images.length) : page'.Has d := by
  cases d with
  | canvas width height => exact trivial
  | image n => exact Nat.lt_of_lt_of_le h le

theorem decoding?_eq_some_iff {page : Page} {d : Drawable} {number : Nat} :
    page.decoding? d = some number ↔
      d = .image number ∧ page.Has d ∧ page.isComplete d = false := by
  cases d with
  | canvas width height => simp [decoding?]
  | image n =>
      rw [decoding?, isComplete, Drawable.image.injEq, Has]
      cases h : page.images[n]? with
      | none =>
          have hle := List.getElem?_eq_none_iff.mp h
          simp only [Option.any_none, Bool.false_eq_true, if_false, reduceCtorEq, false_iff]
          omega
      | some image =>
          have hlt := (List.getElem?_eq_some_iff.mp h).1
          cases hc : image.complete <;> simp [hc, hlt]

theorem isComplete_of_decoding?_eq_none {page : Page} {d : Drawable}
    (h : page.decoding? d = none) (has : page.Has d) : page.isComplete d = true := by
  cases d with
  | canvas width height => rfl
  | image n =>
      cases incomplete : page.isComplete (.image n) with
      | true => rfl
      | false => cases h.symm.trans (decoding?_eq_some_iff.mpr ⟨rfl, has, incomplete⟩)

theorem isComplete_of_images {page page' : Page} (h : page'.images = page.images) (d : Drawable) :
    page'.isComplete d = page.isComplete d := by
  cases d with
  | canvas width height => rfl
  | image n => rw [isComplete, h, isComplete]

theorem handler_of_images {page page' : Page} (h : page'.images = page.images) (number : Nat) :
    page'.handler number = page.handler number := by
  rw [handler, h, handler]

theorem handler_modifyImage (page : Page) (number other : Nat) (f : PageImage → PageImage) :
    (page.modifyImage number f).handler other =
      if number = other then page.images[other]?.bind fun image => (f image).onload
      else page.handler other := by
  rw [handler, images_modifyImage]
  split
  · cases page.images[other]? <;> rfl
  · rfl

theorem isComplete_modifyImage (page : Page) (number : Nat) (f : PageImage → PageImage)
    (h : ∀ image, (f image).complete = image.complete) (d : Drawable) :
    (page.modifyImage number f).isComplete d = page.isComplete d := by
  cases d with
  | canvas width height => rfl
  | image n =>
      rw [isComplete, images_modifyImage, isComplete]
      split
      · cases page.images[n]? with
        | none => rfl
        | some image => exact h image
      · rfl

theorem length_modifyImage (page : Page) (number : Nat) (f : PageImage → PageImage) :
    (page.modifyImage number f).images.length = page.images.length := List.length_modify ..

theorem isComplete_decode {page : Page} {number : Nat} {d : Drawable}
    (h : page.isComplete d = true) : (page.decode number).isComplete d = true := by
  cases d with
  | canvas width height => rfl
  | image n =>
      rw [isComplete] at h
      rw [decode, isComplete, images_modifyImage]
      split
      · obtain ⟨image, hi, -⟩ := (Option.any_eq_true _ _).mp h
        rw [hi]
        rfl
      · exact h

/-- The page grew, if anything: nothing was asked of its canvases, and nothing is due for the images
that were added. -/
structure Grows (page page' : Page) : Prop where
  images : ∃ added, page'.images = page.images ++ added ∧ ∀ image ∈ added, image.onload = none
  fresh : page.Fresh → page'.Fresh
  callsOn (canvas : String) : page'.callsOn canvas = page.callsOn canvas

structure Passes (page : Page) (canvas : String) (calls : List (Surface.Call Float Drawable))
    (page' : Page) : Prop where
  images : page'.images = page.images
  newImage : page'.newImage = page.newImage
  own : page'.callsOn canvas = page.callsOn canvas ++ calls
  others (other : String) (h : other ≠ canvas) : page'.callsOn other = page.callsOn other

theorem Grows.refl (page : Page) : page.Grows page := ⟨⟨[], by simp⟩, id, fun _ => rfl⟩

theorem Grows.trans {page mid page' : Page} (h : page.Grows mid) (h' : mid.Grows page') :
    page.Grows page' := by
  obtain ⟨added, hadded, hdue⟩ := h.images
  obtain ⟨added', hadded', hdue'⟩ := h'.images
  refine ⟨⟨added ++ added', ?_, ?_⟩, h'.fresh ∘ h.fresh,
    fun canvas => (h'.callsOn canvas).trans (h.callsOn canvas)⟩
  · rw [hadded', hadded, List.append_assoc]
  · exact List.forall_mem_append.mpr ⟨hdue, hdue'⟩

theorem Grows.length_le {page page' : Page} (h : page.Grows page') :
    page.images.length ≤ page'.images.length := by
  obtain ⟨added, hadded, -⟩ := h.images
  simp [hadded]

theorem Grows.isComplete {page page' : Page} (h : page.Grows page') {d : Drawable}
    (has : page.Has d) : page'.isComplete d = page.isComplete d := by
  obtain ⟨added, hadded, -⟩ := h.images
  cases d with
  | canvas width height => rfl
  | image n => rw [Page.isComplete, Page.isComplete, hadded, List.getElem?_append_left has]

theorem Grows.handler {page page' : Page} (h : page.Grows page') (number : Nat) :
    page'.handler number = page.handler number := by
  obtain ⟨added, hadded, hdue⟩ := h.images
  rw [Page.handler, Page.handler, hadded]
  rcases Nat.lt_or_ge number page.images.length with hlt | hge
  · rw [List.getElem?_append_left hlt]
  · rw [List.getElem?_append_right hge, List.getElem?_eq_none hge, Option.bind_none,
      Option.bind_eq_none_iff]
    exact fun image hi => hdue image (List.mem_of_getElem? hi)

theorem grows_record (page : Page) {call : Call} (h : ∀ canvas, call.on canvas = none) :
    page.Grows (page.record call) where
  images := ⟨[], by simp [record]⟩
  fresh := id
  callsOn canvas := by simp [callsOn_record, h]

theorem grows_report (page : Page) (notices : List Notice) : page.Grows (page.report notices) :=
  ⟨⟨[], by simp [report]⟩, id, fun _ => rfl⟩

theorem grows_append (page : Page) (list : ElementList) (entry : String) :
    page.Grows (list.append page entry).2 := by
  unfold ElementList.append
  split
  · exact .refl page
  · exact (page.grows_record fun _ => rfl).trans (grows_report _ _)
  · exact ((page.grows_record fun _ => rfl).trans (grows_record _ fun _ => rfl)).trans
      (grows_record _ fun _ => rfl)

theorem grows_invoke (page : Page) (f : ScriptFunction) (argument : String) :
    page.Grows (page.invoke f argument).2 :=
  ⟨⟨[], by simp [invoke]⟩, id, fun _ => rfl⟩

theorem grows_compile (page : Page) (source : String) :
    page.Grows (Compiler.compile page source).2 := by
  refine (page.grows_invoke .compile source).trans ?_
  have unchanged : (Compiler.compile page source).2 = (page.invoke .compile source).2 := by
    simp only [Compiler.compile, invoke]
    split
    · next h => exact (Prod.mk.inj h).2.symm
    · next h => split <;> exact (Prod.mk.inj h).2.symm
  rw [unchanged]
  exact .refl _

theorem svgImage_of_ok {page : Page} {image : PageImage} (h : page.newImage = .ok image)
    (svg : String) :
    ∃ page', page.svgImage svg = (.ok page.images.length, page') ∧
      page'.images = page.images ++ [{ image with source := some (svgUrl svg) }] ∧
      page'.newImage = .ok image ∧
      page'.calls = page.calls.push (.setSource page.images.length (svgUrl svg)) := by
  simp only [svgImage, h]
  refine ⟨_, rfl, ?_, h, rfl⟩
  exact List.modifyTailIdx_add _ 0 page.images [image]

theorem grows_svgImage {page : Page} (fresh : page.Fresh) (svg : String) :
    page.Grows (page.svgImage svg).2 ∧
      ∀ number, (page.svgImage svg).1 = .ok number →
        number = page.images.length ∧ number < (page.svgImage svg).2.images.length := by
  cases h : page.newImage with
  | error reason =>
      simp only [svgImage, h]
      exact ⟨.refl page, nofun⟩
  | ok image =>
      obtain ⟨page', hsvg, himages, hnew, hcalls⟩ := svgImage_of_ok h svg
      rw [hsvg]
      refine ⟨⟨⟨_, himages, ?_⟩, ?_, ?_⟩, ?_⟩
      · rw [List.forall_mem_singleton]
        exact fresh image h
      · rw [Fresh, Fresh, hnew, h]
        exact id
      · intro canvas
        rw [callsOn, hcalls, Array.toList_push, List.filterMap_append]
        exact List.append_nil _
      · rintro number ⟨⟩
        exact ⟨rfl, by simp [himages]⟩

theorem grows_render {page : Page} (fresh : page.Fresh) (spec : String) :
    page.Grows (GraphRenderer.render page spec).2 ∧
      ∀ image, (GraphRenderer.render page spec).1 = .ok image →
        image = .image page.images.length ∧
          page.images.length < (GraphRenderer.render page spec).2.images.length := by
  have asked := page.grows_invoke .render spec
  have fresh' : (page.invoke .render spec).2.Fresh := asked.fresh fresh
  simp only [GraphRenderer.render]
  split
  · next h =>
      rw [h] at asked
      exact ⟨asked, nofun⟩
  · next answer mid h =>
      rw [h] at asked fresh'
      split
      · exact ⟨asked, nofun⟩
      · next svg _ =>
          obtain ⟨grows, new⟩ := grows_svgImage fresh' svg
          split
          · next number page' hsvg =>
              rw [hsvg] at grows new
              refine ⟨asked.trans grows, ?_⟩
              rintro image ⟨⟩
              obtain ⟨rfl, hlt⟩ := new number rfl
              obtain rfl : _ = mid := congrArg Prod.snd h
              exact ⟨rfl, hlt⟩
          · next hsvg =>
              rw [hsvg] at grows
              exact ⟨asked.trans grows, nofun⟩

theorem Passes.refl (page : Page) (canvas : String) : page.Passes canvas [] page :=
  ⟨rfl, rfl, (List.append_nil _).symm, fun _ _ => rfl⟩

theorem Passes.trans {page mid page' : Page} {canvas : String}
    {calls calls' : List (Surface.Call Float Drawable)} (h : page.Passes canvas calls mid)
    (h' : mid.Passes canvas calls' page') : page.Passes canvas (calls ++ calls') page' where
  images := h'.images.trans h.images
  newImage := h'.newImage.trans h.newImage
  own := by rw [h'.own, h.own, List.append_assoc]
  others other hne := (h'.others other hne).trans (h.others other hne)

theorem Passes.report {page page' : Page} {canvas : String}
    {calls : List (Surface.Call Float Drawable)} (h : page.Passes canvas calls page')
    (notices : List Notice) : page.Passes canvas calls (page'.report notices) :=
  ⟨h.images, h.newImage, h.own, h.others⟩

theorem passes_perform (page : Page) (canvas : String) (call : Surface.Call Float Drawable) :
    page.Passes canvas [call] (page.perform canvas call) := by
  have recorded : page.Passes canvas [call] (page.record (.onCanvas canvas call)) := by
    refine ⟨rfl, rfl, ?_, fun other hne => ?_⟩
    · simp [callsOn_record, Call.on]
    · simp [callsOn_record, Call.on, hne.symm]
  unfold perform
  split
  · dsimp only
    split
    · exact recorded.report _
    · exact recorded
  · exact recorded

theorem passes_foldl (page : Page) (canvas : String)
    (calls : List (Surface.Call Float Drawable)) :
    page.Passes canvas calls (calls.foldl (fun page call => page.perform canvas call) page) := by
  induction calls generalizing page with
  | nil => exact .refl page canvas
  | cons call calls ih => exact (page.passes_perform canvas call).trans (ih _)

end Page

namespace CanvasContext

theorem pending_foldl (s : CanvasContext) (calls : List (Surface.Call Float Drawable)) :
    (calls.foldl DrawingSurface.perform s).pending.toList = s.pending.toList ++ calls := by
  induction calls generalizing s with
  | nil => exact (List.append_nil _).symm
  | cons call calls ih =>
      rw [List.foldl_cons, ih]
      simp [DrawingSurface.perform]

end CanvasContext

namespace Viewport

open PanZoomTarget

variable (v : Viewport CanvasContext Float Drawable)

def pending : List (Surface.Call Float Drawable) := v.tracker.surface.pending.toList

def frameCalls : List (Surface.Call Float Drawable) := v.paint.map Tracker.Op.call

theorem pending_redraw : v.redraw.pending = v.pending ++ v.frameCalls := by
  rw [pending, surface_redraw, CanvasContext.pending_foldl, pending, frameCalls]

theorem images_frameCalls : v.frameCalls.filterMap Surface.Call.image? = v.content.toList := by
  rw [frameCalls, calls_paint]
  cases v.content <;> rfl

theorem exists_pending_of_reaches {v v' : Viewport CanvasContext Float Drawable}
    (h : Pointer.Reaches v v') :
    ∃ calls, v'.pending = v.pending ++ calls ∧
      (calls.filterMap Surface.Call.image? = [] ∨
        calls.filterMap Surface.Call.image? = v.content.toList) := by
  cases h with
  | untouched => exact ⟨[], (List.append_nil _).symm, .inl rfl⟩
  | @changed m mid ok =>
      obtain ⟨u, -, hmid⟩ := Tracker.install_eq_ok (serve_of_apply ok)
      have hpending : mid.pending = v.pending ++ [.transform m] := by
        rw [pending, hmid]
        exact Array.toList_push
      have hcontent : mid.content = v.content := by
        have := (v.apply_keeps m).2
        rwa [ok] at this
      refine ⟨.transform m :: mid.frameCalls, ?_, .inr ?_⟩
      · rw [show PanZoomTarget.redraw mid = mid.redraw from rfl, pending_redraw, hpending,
          List.append_assoc]
        rfl
      · rw [List.filterMap_cons, images_frameCalls, hcontent]
        rfl
  | refused error =>
      obtain rfl := eq_of_apply_eq_error error
      exact ⟨[], (List.append_nil _).symm, .inl rfl⟩

end Viewport

namespace GraphCanvas

def content (c : GraphCanvas) : Option Drawable := c.pane.viewport.content

/-- The canvas was drawn on by some calls, which the page has got. -/
structure Draws (c : GraphCanvas) (page : Page) (calls : List (Surface.Call Float Drawable))
    (c' : GraphCanvas) (page' : Page) : Prop where
  name : c'.name = c.name
  loads : c'.loads = c.loads
  idle : c'.context.pending = #[]
  passes : page.Passes c.name calls page'

theorem draws_flush {c : GraphCanvas} (idle : c.context.pending = #[])
    (pane : Pane CanvasContext Float Drawable) {calls : List (Surface.Call Float Drawable)}
    (h : pane.viewport.pending = c.pane.viewport.pending ++ calls) (page : Page)
    (notices : List Page.Notice) :
    let flushed := ({ c with pane } : GraphCanvas).flush page
    c.Draws page calls flushed.1 (flushed.2.report notices) := by
  have pending : pane.viewport.tracker.surface.pending.toList = calls := by
    rw [show c.pane.viewport.pending = [] from congrArg Array.toList idle] at h
    exact h
  have passed := (page.passes_foldl c.name calls).report notices
  rw [← pending, Array.foldl_toList] at passed
  rw [← pending]
  exact ⟨rfl, rfl, rfl, passed⟩

theorem draws_redraw {c : GraphCanvas} (idle : c.context.pending = #[]) (page : Page) :
    let painted := c.perform page .redraw
    c.Draws page c.pane.viewport.frameCalls painted.1 painted.2.1 :=
  draws_flush idle (c.pane.after .redraw) c.pane.viewport.pending_redraw page []

theorem content_redraw (c : GraphCanvas) (page : Page) :
    (c.perform page .redraw).1.content = c.content := c.pane.viewport.content_redraw

theorem draws_setContent {c : GraphCanvas} (idle : c.context.pending = #[]) (page : Page)
    (image : Drawable) :
    let painted := c.perform page (.setContent image)
    ∃ calls, c.Draws page calls painted.1 painted.2.1 ∧
      calls.filterMap Surface.Call.image? = [image] := by
  let v : Viewport CanvasContext Float Drawable :=
    { c.pane.viewport with content := some image }
  have images : v.frameCalls.filterMap Surface.Call.image? = [image] := v.images_frameCalls
  have draws := draws_flush idle (c.pane.after (.setContent image)) v.pending_redraw page []
  exact ⟨v.frameCalls, draws, images⟩

theorem content_setContent (c : GraphCanvas) (page : Page) (image : Drawable) :
    (c.perform page (.setContent image)).1.content = some image :=
  Viewport.content_redraw _

theorem draws_handle {c : GraphCanvas} (idle : c.context.pending = #[]) (page : Page)
    (event : Pointer.Event Float) :
    let handled := c.handle page event
    ∃ calls, c.Draws page calls handled.1 handled.2.1 ∧
      (calls.filterMap Surface.Call.image? = [] ∨
        calls.filterMap Surface.Call.image? = c.content.toList) := by
  obtain ⟨calls, hcalls, hdrawn⟩ := Viewport.exists_pending_of_reaches
    (c.pane.pointer.steps_handle c.pane.viewport event).reaches
  exact ⟨calls, draws_flush idle (c.pane.handle event).1 hcalls page _, hdrawn⟩

theorem content_handle (c : GraphCanvas) (page : Page) (event : Pointer.Event Float) :
    (c.handle page event).1.content = c.content :=
  (Viewport.keeps_of_reaches (c.pane.pointer.steps_handle c.pane.viewport event).reaches).2

end GraphCanvas

end GraphLens
