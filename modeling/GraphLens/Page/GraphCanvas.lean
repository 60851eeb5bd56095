import GraphLens.Page
import GraphLens.Pointer.Wheel
import GraphLens.Request.ContentLoads

namespace GraphLens

structure CanvasContext where
  width : Nat
  height : Nat
  pending : Array (Surface.Call Float Drawable)

instance : DrawingSurface CanvasContext Float Drawable where
  size c := ⟨Float.ofNat c.width, Float.ofNat c.height⟩
  perform c call := { c with pending := c.pending.push call }

structure MouseEvent where
  x : Int
  y : Int
  shift : Bool
  ctrl : Bool
  alt : Bool
  metaKey : Bool

namespace MouseEvent

def point (e : MouseEvent) : Point Float := ⟨Float.ofInt e.x, Float.ofInt e.y⟩

def modifiers (e : MouseEvent) : Modifiers := .ofKeys e.shift e.ctrl e.alt e.metaKey

end MouseEvent

structure WheelEvent extends MouseEvent where
  deltaY : Float
  deltaMode : Nat

def WheelEvent.delta (e : WheelEvent) : Float := wheelMagnitude e.deltaY (.ofCode e.deltaMode)

inductive ContextAnswer where
  | context
  | nothing
  | foreign (value : ScriptValue)
  | throws (reason : ScriptValue)

/-- A canvas, by its name, with the pane on it and the loads it waits for. -/
structure GraphCanvas where
  name : String
  pane : Pane CanvasContext Float Drawable
  loads : ContentLoads

namespace GraphCanvas

def context (c : GraphCanvas) : CanvasContext := c.pane.viewport.tracker.surface

def mapContext (c : GraphCanvas) (f : CanvasContext → CanvasContext) : GraphCanvas :=
  { c with pane := { c.pane with viewport := c.pane.viewport.mapSurface f } }

def flush (c : GraphCanvas) (page : Page) : GraphCanvas × Page :=
  (c.mapContext ({ · with pending := #[] }),
    c.context.pending.foldl (fun page call => page.perform c.name call) page)

def open? (name : String) (width height : Nat) (target : Target) (answer : ContextAnswer)
    (page : Page) : Except ScriptValue GraphCanvas × Page :=
  let page := page.record (.getContext name)
  match answer with
  | .throws reason => (.error reason, page)
  | .nothing => (.error (.text "missing 2d context"), page)
  | .foreign value => (.error value, page)
  | .context =>
    let c : GraphCanvas :=
      ⟨name, .ofSurface ⟨width, height, #[]⟩ .standard, .ofTarget target⟩
    let (c, page) := c.flush page
    (.ok c, page)

def perform (c : GraphCanvas) (page : Page) (op : Pane.Op Float Drawable) :
    GraphCanvas × Page × Pane.Reply Float Drawable :=
  let (pane, reply, notices) := c.pane.perform op
  let (c, page) := { c with pane }.flush page
  (c, page.report (notices.map .pane), reply)

def handle (c : GraphCanvas) (page : Page) (event : Pointer.Event Float) :
    GraphCanvas × Page × Pointer.Response Float :=
  let (pane, response, notices) := c.pane.handle event
  let (c, page) := { c with pane }.flush page
  (c, page.report (notices.map .pane), response)

/-- Shows something else. If it is still being decoded, it waits for that. -/
def setContent (c : GraphCanvas) (page : Page) (content : Drawable) : GraphCanvas × Page :=
  let (loads, page) :=
    match page.decoding? content with
    | some number =>
      let (ticket, loads) := c.loads.pending
      (loads, page.setOnload number ⟨c.name, ticket⟩)
    | none => (c.loads.ready, page)
  let (c, page, _) := { c with loads }.perform page (.setContent content)
  (c, page)

def loaded (c : GraphCanvas) (page : Page) (ticket : Ticket) : GraphCanvas × Page :=
  let (current, loads) := c.loads.loaded ticket
  let c := { c with loads }
  if current then
    let (c, page, _) := c.perform page .redraw
    (c, page)
  else (c, page.report [.replacedLoad ticket])

def onLoad (c : GraphCanvas) (page : Page) : Option LoadHandler → GraphCanvas × Page
  | none => (c, page)
  | some handler => if handler.canvas = c.name then c.loaded page handler.ticket else (c, page)

def resize (c : GraphCanvas) (width height : Nat) : GraphCanvas :=
  c.mapContext ({ · with width, height })

inductive Event where
  | mouseDown (e : MouseEvent)
  | mouseMove (e : MouseEvent)
  | mouseUp (e : MouseEvent)
  | mouseLeave
  | wheel (e : WheelEvent)

namespace Event

def toPointer : Event → Pointer.Event Float
  | mouseDown e => .down e.point
  | mouseMove e => .move e.point
  | mouseUp e => .up e.point e.modifiers
  | mouseLeave => .cancel
  | wheel e => .wheel e.point e.delta

/-- The default action of the event is prevented after this response: the selection of text
while a drag goes on, and scrolling wherever the wheel did something. -/
def prevented : Event → Pointer.Response Float → Bool
  | mouseDown _, response | mouseMove _, response => response.suppressesSelection
  | wheel _, .ignored => false
  | wheel _, _ => true
  | mouseUp _, _ | mouseLeave, _ => false

end Event

end GraphCanvas

end GraphLens
