import GraphLens.Proofs.AwaitedLoads
import GraphLens.Proofs.PageSteps

namespace GraphLens

open Pipeline

namespace Page

/-- Nothing that the canvas waits for is lost, and no handler of it is new. -/
structure Spares (page page' : Page) (c : GraphCanvas) : Prop where
  length_le : page.images.length ≤ page'.images.length
  complete (d : Drawable) (h : page.isComplete d = true) : page'.isComplete d = true
  only (number : Nat) (ticket : Ticket) (h : page'.handler number = some ⟨c.name, ticket⟩) :
    page.handler number = some ⟨c.name, ticket⟩
  kept (number : Nat) (ticket : Ticket) (h : page.handler number = some ⟨c.name, ticket⟩)
    (awaits : c.loads.Awaits ticket) : page'.handler number = some ⟨c.name, ticket⟩

variable {page page' : Page}

theorem spares_of_images (h : page'.images = page.images) (c : GraphCanvas) :
    page.Spares page' c where
  length_le := Nat.le_of_eq (congrArg _ h.symm)
  complete d hd := by rwa [isComplete_of_images h]
  only n t ht := by rwa [handler_of_images h] at ht
  kept n t ht _ := by rwa [handler_of_images h]

theorem Grows.spares (h : page.Grows page') (c : GraphCanvas) : page.Spares page' c where
  length_le := h.length_le
  complete d hd := by rwa [h.isComplete (has_of_isComplete hd)]
  only n t ht := by rwa [h.handler] at ht
  kept n t ht _ := by rwa [h.handler]

theorem spares_decode (page : Page) (number : Nat) (c : GraphCanvas) :
    page.Spares (page.decode number) c := by
  have handlers (n : Nat) : (page.decode number).handler n = page.handler n := by
    rw [decode, handler_modifyImage, handler]
    split <;> rfl
  refine ⟨Nat.le_of_eq (page.length_modifyImage _ _).symm, fun d => isComplete_decode,
    fun n t ht => ?_, fun n t ht _ => ?_⟩
  · rwa [handlers] at ht
  · rwa [handlers]

theorem handler_setOnload (page : Page) (number other : Nat) (due : LoadHandler) :
    (page.setOnload number due).handler other =
      if number = other then page.images[other]?.map fun _ => due else page.handler other := by
  rw [setOnload, handler_modifyImage]
  split
  · exact Option.map_eq_bind.symm
  · rfl

theorem handler_setOnload_self {page : Page} {number : Nat} (h : page.Has (.image number))
    (due : LoadHandler) : (page.setOnload number due).handler number = some due := by
  rw [handler_setOnload, if_pos rfl, List.getElem?_eq_getElem h, Option.map_some]

theorem isComplete_setOnload (page : Page) (number : Nat) (due : LoadHandler) (d : Drawable) :
    (page.setOnload number due).isComplete d = page.isComplete d := by
  refine (page.record (.setOnload number)).isComplete_modifyImage number _ (fun _ => ?_) d
  rfl

theorem handler_takeOnload (page : Page) (number other : Nat) :
    (page.takeOnload number).2.handler other =
      if number = other then none else page.handler other := by
  rw [takeOnload, handler_modifyImage]
  split
  · cases page.images[other]? <;> rfl
  · rfl

theorem isComplete_takeOnload (page : Page) (number : Nat) (d : Drawable) :
    (page.takeOnload number).2.isComplete d = page.isComplete d := by
  refine page.isComplete_modifyImage number _ (fun _ => ?_) d
  rfl

theorem Spares.trans {mid : Page} {c : GraphCanvas} (h : page.Spares mid c)
    (h' : mid.Spares page' c) : page.Spares page' c where
  length_le := Nat.le_trans h.length_le h'.length_le
  complete d hd := h'.complete d (h.complete d hd)
  only n t ht := h.only n t (h'.only n t ht)
  kept n t ht awaits := h'.kept n t (h.kept n t ht awaits) awaits

theorem spares_modifyImage {c : GraphCanvas} {number : Nat} {f : PageImage → PageImage}
    (complete : ∀ image, (f image).complete = image.complete)
    (foreign : ∀ image ticket, (f image).onload ≠ some ⟨c.name, ticket⟩)
    (free : ∀ ticket, page.handler number = some ⟨c.name, ticket⟩ → ¬c.loads.Awaits ticket) :
    page.Spares (page.modifyImage number f) c where
  length_le := Nat.le_of_eq (page.length_modifyImage number f).symm
  complete d hd := by rwa [page.isComplete_modifyImage number f complete]
  only n t ht := by
    rw [handler_modifyImage] at ht
    split at ht
    · obtain ⟨image, -, due⟩ := Option.bind_eq_some_iff.mp ht
      exact absurd due (foreign image t)
    · exact ht
  kept n t ht awaits := by
    rw [handler_modifyImage, if_neg]
    · exact ht
    · rintro rfl
      exact free t ht awaits

theorem spares_setOnload {c : GraphCanvas} {number : Nat} {due : LoadHandler}
    (other : due.canvas ≠ c.name)
    (free : ∀ ticket, page.handler number = some ⟨c.name, ticket⟩ → ¬c.loads.Awaits ticket) :
    page.Spares (page.setOnload number due) c := by
  have recorded : page.Spares (page.record (.setOnload number)) c := by
    refine spares_of_images ?_ c
    rfl
  refine recorded.trans (spares_modifyImage (fun _ => rfl) (fun image ticket h => ?_) free)
  exact other (congrArg LoadHandler.canvas (Option.some.inj h))

theorem spares_takeOnload {c : GraphCanvas} {number : Nat}
    (free : ∀ ticket, page.handler number = some ⟨c.name, ticket⟩ → ¬c.loads.Awaits ticket) :
    page.Spares (page.takeOnload number).2 c :=
  spares_modifyImage (fun _ => rfl) nofun free

/-- The pages differ in what is due for their images, and in what they report. -/
structure Matches (page page' : Page) : Prop where
  newImage : page'.newImage = page.newImage
  length_eq : page'.images.length = page.images.length
  complete (d : Drawable) : page'.isComplete d = page.isComplete d
  callsOn (canvas : String) : page'.callsOn canvas = page.callsOn canvas

theorem Matches.refl (page : Page) : page.Matches page :=
  ⟨rfl, rfl, fun _ => rfl, fun _ => rfl⟩

theorem matches_setOnload (page : Page) (number : Nat) (due : LoadHandler) :
    page.Matches (page.setOnload number due) where
  newImage := rfl
  length_eq := length_modifyImage (page.record _) _ _
  complete := page.isComplete_setOnload number due
  callsOn canvas := (page.callsOn_record (.setOnload number) canvas).trans (List.append_nil _)

theorem matches_takeOnload (page : Page) (number : Nat) :
    page.Matches (page.takeOnload number).2 where
  newImage := rfl
  length_eq := page.length_modifyImage _ _
  complete := page.isComplete_takeOnload number
  callsOn _ := rfl

end Page

namespace GraphCanvas

/-- What a canvas knows of its image, when `drawn` is what was drawn on it so far, each with whether
it was whole, and `done` are the images that it need not wait for. -/
structure Waits (c : GraphCanvas) (page : Page) (drawn : List (Drawable × Bool))
    (done : Nat → Prop) : Prop where
  idle : c.context.pending = #[]
  sound : c.loads.Sound
  has (d : Drawable) (h : c.content = some d) : page.Has d
  issued (number : Nat) (ticket : Ticket)
    (h : page.handler number = some ⟨c.name, ticket⟩) : ticket.seq ≤ c.loads.issued
  current (number : Nat) (ticket : Ticket) (h : page.handler number = some ⟨c.name, ticket⟩)
    (awaits : c.loads.Awaits ticket) : c.content = some (.image number)
  complete (number : Nat) (h : done number) : page.isComplete (.image number) = true
  last (number : Nat) (h : c.content = some (.image number)) :
    drawn.getLast? = some (.image number, true) ∧ page.isComplete (.image number) = true ∨
      ¬done number ∧ drawn.getLast? = some (.image number, false) ∧
        ∃ ticket, page.handler number = some ⟨c.name, ticket⟩ ∧ c.loads.Awaits ticket

variable {c c' : GraphCanvas} {page page' : Page} {drawn : List (Drawable × Bool)}
  {done : Nat → Prop}

theorem Waits.spares (h : c.Waits page drawn done) (spares : page.Spares page' c) :
    c.Waits page' drawn done where
  idle := h.idle
  sound := h.sound
  has d hd := (h.has d hd).mono spares.length_le
  issued n t ht := h.issued n t (spares.only n t ht)
  current n t ht := h.current n t (spares.only n t ht)
  complete n hn := spares.complete _ (h.complete n hn)
  last n hn := by
    rcases h.last n hn with ⟨whole, complete⟩ | ⟨notDone, part, t, ht, awaits⟩
    · exact .inl ⟨whole, spares.complete _ complete⟩
    · exact .inr ⟨notDone, part, t, spares.kept n t ht awaits, awaits⟩

theorem Waits.draws (h : c.Waits page drawn done) {calls : List (Surface.Call Float Drawable)}
    (draws : c.Draws page calls c' page') (content : c'.content = c.content)
    (images : calls.filterMap Surface.Call.image? = [] ∨
      calls.filterMap Surface.Call.image? = c.content.toList) :
    c'.Waits page' (drawn ++ (calls.filterMap Surface.Call.image?).map fun d =>
      (d, page'.isComplete d)) done := by
  have h' := h.spares (page.spares_of_images draws.passes.images c)
  constructor
  case idle => exact draws.idle
  case complete => exact h'.complete
  case sound =>
    rw [draws.loads]
    exact h'.sound
  case has =>
    rw [content]
    exact h'.has
  case issued =>
    rw [draws.name, draws.loads]
    exact h'.issued
  case current =>
    rw [draws.name, draws.loads, content]
    exact h'.current
  case last =>
    rw [draws.name, draws.loads, content]
    intro n hn
    rcases images with images | images
    · rw [images, List.map_nil, List.append_nil]
      exact h'.last n hn
    · rw [images, hn, Option.toList_some, List.map_singleton, List.getLast?_concat]
      cases complete : page'.isComplete (.image n) with
      | true => exact .inl ⟨rfl, rfl⟩
      | false =>
          rcases h'.last n hn with ⟨-, whole⟩ | ⟨notDone, -, awaited⟩
          · rw [complete] at whole
            cases whole
          · exact .inr ⟨notDone, rfl, awaited⟩

/-- The canvas has drawn some images, one after the other, and shows the last of them. -/
structure Repaints (c : GraphCanvas) (page : Page) (ds : List Drawable) (c' : GraphCanvas)
    (page' : Page) : Prop where
  name : c'.name = c.name
  content : c'.content = ds.getLast?.or c.content
  fresh : page.Fresh → page'.Fresh
  length_eq : page'.images.length = page.images.length
  complete (d : Drawable) : page'.isComplete d = page.isComplete d
  own : ∃ calls, page'.callsOn c.name = page.callsOn c.name ++ calls ∧
    calls.filterMap Surface.Call.image? = ds
  others (other : String) (h : other ≠ c.name) : page'.callsOn other = page.callsOn other

theorem Draws.repaints {mid : Page} {loads : ContentLoads} {ds : List Drawable}
    {calls : List (Surface.Call Float Drawable)}
    (h : { c with loads : GraphCanvas }.Draws mid calls c' page') (alike : page.Matches mid)
    (content : c'.content = ds.getLast?.or c.content)
    (images : calls.filterMap Surface.Call.image? = ds) : c.Repaints page ds c' page' where
  name := h.name
  content := content
  fresh fresh := by
    rw [Page.Fresh, h.passes.newImage, alike.newImage]
    exact fresh
  length_eq := by rw [h.passes.images, alike.length_eq]
  complete d := by rw [Page.isComplete_of_images h.passes.images, alike.complete]
  own := ⟨calls, by rw [h.passes.own, alike.callsOn], images⟩
  others other ne := by rw [h.passes.others other ne, alike.callsOn]

/-- What a canvas does with new content: if it is being decoded, there is a handler for it. -/
inductive Takes (c : GraphCanvas) (page : Page) (d : Drawable) : GraphCanvas → Page → Prop
  | whole {c' : GraphCanvas} {page' : Page} {calls : List (Surface.Call Float Drawable)}
      (whole : page.decoding? d = none)
      (draws : { c with loads := c.loads.ready : GraphCanvas }.Draws page calls c' page')
      (content : c'.content = some d) (images : calls.filterMap Surface.Call.image? = [d]) :
      Takes c page d c' page'
  | part {number : Nat} {c' : GraphCanvas} {page' : Page}
      {calls : List (Surface.Call Float Drawable)} (part : page.decoding? d = some number)
      (draws : { c with loads := c.loads.pending.2 : GraphCanvas }.Draws
        (page.setOnload number ⟨c.name, c.loads.pending.1⟩) calls c' page')
      (content : c'.content = some d) (images : calls.filterMap Surface.Call.image? = [d]) :
      Takes c page d c' page'

theorem takes_setContent (idle : c.context.pending = #[]) (page : Page) (d : Drawable) :
    c.Takes page d (c.setContent page d).1 (c.setContent page d).2 := by
  unfold setContent
  cases decoding : page.decoding? d with
  | none =>
      have ready : { c with loads := c.loads.ready : GraphCanvas }.context.pending = #[] := idle
      obtain ⟨calls, draws, images⟩ := draws_setContent ready page d
      exact .whole decoding draws (content_setContent _ page d) images
  | some number =>
      have pending : { c with loads := c.loads.pending.2 : GraphCanvas }.context.pending = #[] :=
        idle
      obtain ⟨calls, draws, images⟩ := draws_setContent pending
        (page.setOnload number ⟨c.name, c.loads.pending.1⟩) d
      have content := content_setContent { c with loads := c.loads.pending.2 }
        (page.setOnload number ⟨c.name, c.loads.pending.1⟩) d
      exact .part decoding draws content images

theorem Takes.repaints {d : Drawable} (h : c.Takes page d c' page') :
    c.Repaints page [d] c' page' := by
  cases h with
  | whole whole draws content images => exact draws.repaints (.refl page) content images
  | part part draws content images =>
      exact draws.repaints (page.matches_setOnload _ _) content images

theorem Takes.spares {d : Drawable} (h : c.Takes page d c' page') {other : GraphCanvas}
    (waits : other.Waits page drawn done) (ne : c.name ≠ other.name)
    (apart : ∀ number, d = .image number → other.content ≠ some (.image number)) :
    page.Spares page' other := by
  cases h with
  | whole whole draws content images => exact page.spares_of_images draws.passes.images other
  | @part number _ _ calls part draws content images =>
      obtain ⟨rfl, -, -⟩ := Page.decoding?_eq_some_iff.mp part
      refine .trans (Page.spares_setOnload ne fun ticket due awaits => ?_)
        (Page.spares_of_images draws.passes.images other)
      exact apart number rfl (waits.current number ticket due awaits)

theorem Waits.takes_whole (h : c.Waits page drawn done) {d : Drawable} (has : page.Has d)
    (whole : page.decoding? d = none) {calls : List (Surface.Call Float Drawable)}
    (draws : { c with loads := c.loads.ready : GraphCanvas }.Draws page calls c' page')
    (content : c'.content = some d) :
    c'.Waits page' (drawn ++ [(d, page'.isComplete d)]) done := by
  have spares := page.spares_of_images draws.passes.images c
  have complete : page'.isComplete d = true :=
    spares.complete d (Page.isComplete_of_decoding?_eq_none whole has)
  constructor
  case idle => exact draws.idle
  case complete => exact (h.spares spares).complete
  case sound =>
    rw [draws.loads]
    exact h.sound.ready
  case has =>
    rw [content]
    rintro d ⟨⟩
    exact has.mono spares.length_le
  case issued =>
    rw [draws.name, draws.loads]
    intro n t due
    exact Nat.le_trans (h.issued n t (spares.only n t due))
      (h.sound.issued_ready ▸ Nat.le_succ _)
  case current =>
    rw [draws.loads]
    exact fun n t _ awaits => absurd awaits (h.sound.not_awaits_ready t)
  case last =>
    rw [content]
    rintro n ⟨⟩
    rw [List.getLast?_concat, complete]
    exact .inl ⟨rfl, rfl⟩

theorem Waits.takes_part (h : c.Waits page drawn done) {number : Nat}
    (part : page.decoding? (.image number) = some number)
    {calls : List (Surface.Call Float Drawable)}
    (draws : { c with loads := c.loads.pending.2 : GraphCanvas }.Draws
      (page.setOnload number ⟨c.name, c.loads.pending.1⟩) calls c' page')
    (content : c'.content = some (.image number)) :
    c'.Waits page' (drawn ++ [(.image number, page'.isComplete (.image number))]) done := by
  obtain ⟨-, has, incomplete⟩ := Page.decoding?_eq_some_iff.mp part
  have same (d : Drawable) : page'.isComplete d = page.isComplete d := by
    rw [Page.isComplete_of_images draws.passes.images, Page.isComplete_setOnload]
  have self : page'.handler number = some ⟨c.name, c.loads.pending.1⟩ := by
    rw [Page.handler_of_images draws.passes.images, Page.handler_setOnload_self has]
  have rest {n : Nat} (hn : number ≠ n) : page'.handler n = page.handler n := by
    rw [Page.handler_of_images draws.passes.images, Page.handler_setOnload, if_neg hn]
  have newest : c.loads.pending.1.seq = c.loads.issued + 1 := rfl
  constructor
  case idle => exact draws.idle
  case sound =>
    rw [draws.loads]
    exact h.sound.pending
  case has =>
    rw [content]
    rintro d ⟨⟩
    refine has.mono ?_
    rw [draws.passes.images]
    exact Nat.le_of_eq (Page.length_modifyImage (page.record _) _ _).symm
  case issued =>
    rw [draws.name, draws.loads, ContentLoads.issued_pending]
    intro n t due
    by_cases hn : number = n
    · subst hn
      obtain rfl : _ = t := congrArg LoadHandler.ticket (Option.some.inj (self.symm.trans due))
      exact Nat.le_of_eq newest
    · rw [rest hn] at due
      exact Nat.le_succ_of_le (h.issued n t due)
  case current =>
    rw [draws.name, draws.loads, content]
    intro n t due awaits
    obtain rfl := (h.sound.awaits_pending_iff t).mp awaits
    by_cases hn : number = n
    · rw [hn]
    · rw [rest hn] at due
      have := h.issued n _ due
      omega
  case complete =>
    intro n hn
    rw [same]
    exact h.complete n hn
  case last =>
    rw [draws.name, draws.loads, content]
    rintro n ⟨⟩
    refine .inr ⟨fun hn => ?_, ?_, _, self, h.sound.awaits_pending⟩
    · rw [h.complete number hn] at incomplete
      cases incomplete
    · rw [List.getLast?_concat, same, incomplete]

theorem Waits.takes (h : c.Waits page drawn done) {d : Drawable} (has : page.Has d)
    (takes : c.Takes page d c' page') :
    c'.Waits page' (drawn ++ [(d, page'.isComplete d)]) done := by
  cases takes with
  | whole whole draws content images => exact h.takes_whole has whole draws content
  | part part draws content images =>
      obtain ⟨rfl, -, -⟩ := Page.decoding?_eq_some_iff.mp part
      exact h.takes_part part draws content

theorem Waits.finish (h : c.Waits page drawn done) {done' : Nat → Prop}
    (new : ∀ number, done' number → done number ∨ page.isComplete (.image number) = true ∧
      (c.content = some (.image number) → drawn.getLast? = some (.image number, true))) :
    c.Waits page drawn done' where
  idle := h.idle
  sound := h.sound
  has := h.has
  issued := h.issued
  current := h.current
  complete n hn := by
    rcases new n hn with old | ⟨complete, -⟩
    · exact h.complete n old
    · exact complete
  last n hn := by
    rcases h.last n hn with whole | ⟨notDone, part⟩
    · exact .inl whole
    · by_cases hdone : done' n
      · rcases new n hdone with old | ⟨complete, whole⟩
        · exact absurd old notDone
        · exact .inl ⟨whole hn, complete⟩
      · exact .inr ⟨hdone, part⟩

theorem Waits.loaded (h : c.Waits page drawn done) {number : Nat} {ticket : Ticket}
    (due : page.handler number = some ⟨c.name, ticket⟩) (awaits : c.loads.Awaits ticket)
    (complete : page.isComplete (.image number) = true)
    {calls : List (Surface.Call Float Drawable)}
    (draws : { c with loads := (c.loads.loaded ticket).2 : GraphCanvas }.Draws
      (page.takeOnload number).2 calls c' page') (content : c'.content = c.content) :
    c'.Waits page' (drawn ++ [(.image number, true)]) done := by
  have same (d : Drawable) : page'.isComplete d = page.isComplete d := by
    rw [Page.isComplete_of_images draws.passes.images, Page.isComplete_takeOnload]
  have only {n : Nat} {other : Ticket} (ht : page'.handler n = some ⟨c.name, other⟩) :
      page.handler n = some ⟨c.name, other⟩ := by
    rw [Page.handler_of_images draws.passes.images, Page.handler_takeOnload] at ht
    split at ht
    · cases ht
    · exact ht
  have shown : c.content = some (.image number) := h.current number ticket due awaits
  constructor
  case idle => exact draws.idle
  case sound =>
    rw [draws.loads]
    exact h.sound.loaded ticket
  case has =>
    rw [content]
    intro d hd
    refine (h.has d hd).mono ?_
    rw [draws.passes.images]
    exact Nat.le_of_eq (Page.length_modifyImage page _ _).symm
  case issued =>
    rw [draws.name, draws.loads, (ContentLoads.loaded_of_awaits awaits).2.1]
    exact fun n other due' => h.issued n other (only due')
  case current =>
    rw [draws.loads]
    exact fun n other _ awaits' => absurd awaits' (ContentLoads.not_awaits_loaded awaits other)
  case complete =>
    intro n hn
    rw [same]
    exact h.complete n hn
  case last =>
    rw [content, shown]
    rintro n ⟨⟩
    rw [List.getLast?_concat, same]
    exact .inl ⟨rfl, complete⟩

theorem onLoad_of_other (c : GraphCanvas) (page : Page) {due : Option LoadHandler}
    (other : ∀ ticket, due ≠ some ⟨c.name, ticket⟩) : c.onLoad page due = (c, page) := by
  cases due with
  | none => rfl
  | some handler => exact if_neg fun h => other handler.ticket (by rw [← h])

theorem onLoad_of_not_awaits {c : GraphCanvas} {ticket : Ticket} (stale : ¬c.loads.Awaits ticket)
    (page : Page) :
    c.onLoad page (some ⟨c.name, ticket⟩) = (c, page.report [.replacedLoad ticket]) := by
  rw [onLoad, if_pos rfl, loaded, ContentLoads.loaded_of_not_awaits stale]
  rfl

def reload (c : GraphCanvas) (page : Page) (ticket : Ticket) : GraphCanvas × Page :=
  let painted := { c with loads := (c.loads.loaded ticket).2 : GraphCanvas }.perform page .redraw
  (painted.1, painted.2.1)

theorem draws_reload (idle : c.context.pending = #[]) (page : Page) (ticket : Ticket) :
    { c with loads := (c.loads.loaded ticket).2 : GraphCanvas }.Draws page
      c.pane.viewport.frameCalls (c.reload page ticket).1 (c.reload page ticket).2 := by
  have waits : { c with loads := (c.loads.loaded ticket).2 : GraphCanvas }.context.pending = #[] :=
    idle
  exact draws_redraw waits page

theorem content_reload (c : GraphCanvas) (page : Page) (ticket : Ticket) :
    (c.reload page ticket).1.content = c.content := c.pane.viewport.content_redraw

theorem onLoad_of_awaits {c : GraphCanvas} {ticket : Ticket} (awaits : c.loads.Awaits ticket)
    (page : Page) : c.onLoad page (some ⟨c.name, ticket⟩) = c.reload page ticket := by
  rw [onLoad, if_pos rfl, loaded]
  simp only [(ContentLoads.loaded_of_awaits awaits).1, if_true]
  rfl

end GraphCanvas

end GraphLens
