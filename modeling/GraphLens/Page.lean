import GraphLens.Page.Element
import GraphLens.Pane.Notice
import GraphLens.Pipeline.Notice
import GraphLens.Text.Url

namespace GraphLens

/-- What is done when an image has been decoded: the canvas that waits, and its ticket. -/
structure LoadHandler where
  canvas : String
  ticket : Ticket

/-- An image is decoded some time after it was made, and may turn out to be none. -/
structure PageImage where
  source : Option String
  complete : Bool
  broken : Bool
  onload : Option LoadHandler

inductive Drawable where
  | image (number : Nat)
  | canvas (width height : Nat)
  deriving DecidableEq

def Drawable.name : Drawable → String
  | .image number => "img" ++ toString number
  | .canvas _ _ => "offscreen"

namespace Page

inductive Call where
  | getContext (canvas : String)
  | onCanvas (canvas : String) (call : Surface.Call Float Drawable)
  | setSource (image : Nat) (url : String)
  | setOnload (image : Nat)
  | createElement (tag : String)
  | setMarkup (element markup : String)
  | setText (element text : String)
  | appendChild (element child : String)
  | setAttribute (element name value : String)

def methodName : Surface.Call Float Drawable → String
  | .setTransform _ => "setTransform"
  | .clearRect _ => "clearRect"
  | .drawImage _ _ => "drawImage"
  | call => call.name

def Call.words : Call → List String
  | .getContext canvas => [canvas, "getContext", "2d"]
  | .onCanvas canvas call => [canvas, methodName call] ++ (call.image?.map Drawable.name).toList
  | .setSource image url => [(Drawable.image image).name, "src", url]
  | .setOnload image => [(Drawable.image image).name, "onload"]
  | .createElement tag => ["document", "createElement", tag]
  | .setMarkup element markup => [element, "innerHTML", markup]
  | .setText element text => [element, "textContent", text]
  | .appendChild element child => [element, "appendChild", child]
  | .setAttribute element name value => [element, "setAttribute", name, value]

def Call.numbers : Call → List Float
  | .onCanvas _ (.clearRect r) => [r.x0, r.y0, r.width, r.height]
  | .onCanvas _ call => call.numbers
  | _ => []

inductive ScriptFunction where
  | compile
  | render
  deriving DecidableEq

def ScriptFunction.name : ScriptFunction → String
  | .compile => "compile"
  | .render => "render"

inductive Notice where
  | pane (notice : Pane.Notice Float)
  | pipeline (notice : Pipeline.Notice)
  | drawFailed (reason : ScriptValue)
  | entryFailed (reason : ScriptValue)
  | replacedLoad (ticket : Ticket)

def Notice.entry : Notice → Log.Entry
  | .pane notice => notice.entry
  | .pipeline notice => notice.entry
  | .drawFailed reason => Log.event .debug "drawImage failed" [("err", .text reason.describe)]
  | .entryFailed reason =>
    Log.event .warn "could not create list entry" [("err", .text reason.describe)]
  | .replacedLoad ticket =>
    Log.event .trace "load of replaced content ignored" [("ticket", .count ticket.seq)]

end Page

/-- A page, with the record of calls, of script functions called with an argument, and of
notices, each oldest first. -/
structure Page where
  script : Page.ScriptFunction → String → ScriptResult
  newImage : Except ScriptValue PageImage
  images : List PageImage
  calls : Array Page.Call
  invoked : Array (Page.ScriptFunction × String)
  notices : Array Page.Notice

namespace Page

def ofScript (script : ScriptFunction → String → ScriptResult)
    (newImage : Except ScriptValue PageImage) : Page :=
  ⟨script, newImage, [], #[], #[], #[]⟩

def unrecorded (page : Page) : Page := { page with calls := #[], invoked := #[], notices := #[] }

def record (page : Page) (call : Call) : Page := { page with calls := page.calls.push call }

def report (page : Page) (notices : List Notice) : Page :=
  { page with notices := page.notices ++ notices.toArray }

def addImage (page : Page) (image : PageImage) : Nat × Page :=
  (page.images.length, { page with images := page.images ++ [image] })

def modifyImage (page : Page) (number : Nat) (f : PageImage → PageImage) : Page :=
  { page with images := page.images.modify number f }

def setSource (page : Page) (number : Nat) (url : String) : Page :=
  (page.record (.setSource number url)).modifyImage number ({ · with source := some url })

def setOnload (page : Page) (number : Nat) (handler : LoadHandler) : Page :=
  (page.record (.setOnload number)).modifyImage number ({ · with onload := some handler })

/-- An image has been decoded. What is to be done then is still due. -/
def decode (page : Page) (number : Nat) : Page :=
  page.modifyImage number ({ · with complete := true })

def takeOnload (page : Page) (number : Nat) : Option LoadHandler × Page :=
  (page.images[number]?.bind (·.onload), page.modifyImage number ({ · with onload := none }))

def decoding? (page : Page) : Drawable → Option Nat
  | .image number =>
    if page.images[number]?.any (!·.complete) then some number else none
  | .canvas _ _ => none

def refusesToDraw (page : Page) : Drawable → Bool
  | .image number => page.images[number]?.any (·.broken)
  | .canvas width height => width == 0 || height == 0

/-- Carries out a call to a canvas. A failure to draw is reported and has no other effect. -/
def perform (page : Page) (canvas : String) (call : Surface.Call Float Drawable) : Page :=
  let page := page.record (.onCanvas canvas call)
  match call with
  | .drawImage image _ =>
    if page.refusesToDraw image then page.report [.drawFailed (.text "InvalidStateError")]
    else page
  | _ => page

def invoke (page : Page) (f : ScriptFunction) (argument : String) : ScriptResult × Page :=
  (page.script f argument, { page with invoked := page.invoked.push (f, argument) })

def svgUrl (svg : String) : String :=
  "data:image/svg+xml;charset=utf-8," ++ Text.urlComponent svg

def svgImage (page : Page) (svg : String) : Except ScriptValue Nat × Page :=
  match page.newImage with
  | .error reason => (.error reason, page)
  | .ok image =>
    let (number, page) := page.addImage image
    (.ok number, page.setSource number (svgUrl svg))

instance : Compiler Page where
  compile page source :=
    match page.invoke .compile source with
    | (.throws reason, page) => (.error ⟨reason.message⟩, page)
    | (.returns answer, page) =>
      match answer.text? with
      | some raw => (.ok raw, page)
      | none => (.error ⟨"compiler returned a non-string result"⟩, page)

instance : GraphRenderer Page Drawable where
  render page spec :=
    match page.invoke .render spec with
    | (.throws reason, page) => (.error ⟨reason.message⟩, page)
    | (.returns answer, page) =>
      match answer.text? with
      | none => (.error ⟨"renderer returned a non-string result"⟩, page)
      | some svg =>
        match page.svgImage svg with
        | (.ok number, page) => (.ok (.image number), page)
        | (.error reason, page) => (.error ⟨reason.message⟩, page)

end Page

structure ElementList where
  parent : Element
  document : Document

namespace ElementList

def clear (l : ElementList) (page : Page) : ElementList × Page :=
  ({ l with parent := l.parent.withText "" }, page.record (.setMarkup l.parent.tag ""))

def append (l : ElementList) (page : Page) (entry : String) : ElementList × Page :=
  match l.document with
  | .absent => (l, page)
  | .throws reason => (l, (page.record (.createElement "p")).report [.entryFailed reason])
  | .creates =>
    ({ l with parent := l.parent.appendChild ((Element.ofTag "p").withText entry) },
      ((page.record (.createElement "p")).record (.setText "p" entry)).record
        (.appendChild l.parent.tag "p"))

end ElementList

def Element.notify (e : Element) (page : Page) (status : Pipeline.Status) (message : String) :
    Element × Page :=
  ((e.withText message).setAttribute "data-status" status.name,
    (page.record (.setText e.tag message)).record
      (.setAttribute e.tag "data-status" status.name))

end GraphLens
