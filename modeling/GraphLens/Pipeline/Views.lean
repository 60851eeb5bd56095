import GraphLens.Pane
import GraphLens.Pipeline

namespace GraphLens

structure TextList where
  entries : List String
  deriving DecidableEq

namespace TextList

def empty : TextList := ⟨[]⟩

def clear (_ : TextList) : TextList := empty

def append (l : TextList) (entry : String) : TextList := ⟨l.entries ++ [entry]⟩

end TextList

/-- Two lists, two panes, and what the status has said, oldest first. -/
structure Views (σ α ι : Type) where
  tokens : TextList
  analysis : TextList
  ast : Pane σ α ι
  ptree : Pane σ α ι
  statuses : List (Pipeline.Status × String)

namespace Views

variable {σ α ι : Type} [Scalar α] [DrawingSurface σ α ι]

def pane (v : Views σ α ι) : GraphKind → Pane σ α ι
  | .ast => v.ast
  | .ptree => v.ptree

def withPane (v : Views σ α ι) (graph : GraphKind) (pane : Pane σ α ι) : Views σ α ι :=
  match graph with
  | .ast => { v with ast := pane }
  | .ptree => { v with ptree := pane }

def mapList (v : Views σ α ι) (list : Pipeline.ListKind) (f : TextList → TextList) :
    Views σ α ι :=
  match list with
  | .tokens => { v with tokens := f v.tokens }
  | .analysis => { v with analysis := f v.analysis }

def perform (v : Views σ α ι) : Pipeline.Call ι → Views σ α ι
  | .compile _ | .render _ => v
  | .clear list => v.mapList list .clear
  | .append list entry => v.mapList list (·.append entry)
  | .setContent graph image => v.withPane graph ((v.pane graph).perform (.setContent image)).1
  | .notify status message => { v with statuses := v.statuses ++ [(status, message)] }

def performAll (v : Views σ α ι) (activities : List (Pipeline.Activity ι)) : Views σ α ι :=
  activities.foldl (fun v a => match a with | .call call => v.perform call | .notice _ => v) v

end Views

end GraphLens
