import GraphLens.Page.GraphCanvas

namespace GraphLens

structure Workbench where
  page : Page
  pipeline : Pipeline Drawable
  ast : GraphCanvas
  ptree : GraphCanvas
  tokens : ElementList
  analysis : ElementList
  status : Element

namespace Workbench

def canvas (w : Workbench) : GraphKind → GraphCanvas
  | .ast => w.ast
  | .ptree => w.ptree

def withCanvas (w : Workbench) (graph : GraphKind) (canvas : GraphCanvas) (page : Page) :
    Workbench :=
  match graph with
  | .ast => { w with ast := canvas, page }
  | .ptree => { w with ptree := canvas, page }

def mapList (w : Workbench) (list : Pipeline.ListKind)
    (f : ElementList → Page → ElementList × Page) : Workbench :=
  match list with
  | .tokens =>
    let (tokens, page) := f w.tokens w.page
    { w with tokens, page }
  | .analysis =>
    let (analysis, page) := f w.analysis w.page
    { w with analysis, page }

/-- Carries out what a pipeline does to the views, or reports what it reports. Calls to the
compiler and the renderer have been carried out before. -/
def perform (w : Workbench) : Pipeline.Activity Drawable → Workbench
  | .notice notice => { w with page := w.page.report [.pipeline notice] }
  | .call (.compile _) | .call (.render _) => w
  | .call (.clear list) => w.mapList list ElementList.clear
  | .call (.append list entry) => w.mapList list fun l page => l.append page entry
  | .call (.setContent graph image) =>
    let (canvas, page) := (w.canvas graph).setContent w.page image
    w.withCanvas graph canvas page
  | .call (.notify status message) =>
    let (element, page) := w.status.notify w.page status message
    { w with status := element, page }

def finish {β : Type} (w : Workbench)
    (work : Pipeline.Work Page Drawable (Pipeline Drawable × β)) : β × Workbench :=
  (work.value.2,
    work.activities.foldl perform { w with pipeline := work.value.1, page := work.env })

def run (w : Workbench) (source : String) : Except PipelineError Pipeline.Summary × Workbench :=
  w.finish (w.pipeline.run source w.page)

def begin (w : Workbench) : Ticket × Workbench :=
  let (ticket, pipeline, notices) := w.pipeline.begin
  (ticket, { w with pipeline, page := w.page.report (notices.map .pipeline) })

def complete (w : Workbench) (ticket : Ticket) (answer : Except CompilerFailure String) :
    Except PipelineError Pipeline.Outcome × Workbench :=
  w.finish (w.pipeline.complete ticket answer w.page)

def decode (w : Workbench) (number : Nat) : Workbench := { w with page := w.page.decode number }

/-- The page does what is due for a decoded image; whether anything was. -/
def load (w : Workbench) (number : Nat) : Bool × Workbench :=
  let (handler, page) := w.page.takeOnload number
  let (ast, page) := w.ast.onLoad page handler
  let (ptree, page) := w.ptree.onLoad page handler
  (handler.isSome, { w with ast, ptree, page })

end Workbench

end GraphLens
