import GraphLens.Log
import GraphLens.Pane
import GraphLens.Transform.Message

namespace GraphLens

def Tracker.Notice.entry : Tracker.Notice Float → Log.Entry
  | .rejected op e =>
    Log.event .debug "rejected degenerate transform"
      [("op", .text op), ("determinant", .number e.determinant)]
  | .unmatchedRestore => Log.event .debug "restore without matching save ignored" []

def Pointer.Notice.entry : Pointer.Notice Float → Log.Entry
  | .dragStarted => Log.event .trace "drag started" []
  | .dragEnded => Log.event .trace "drag ended" []
  | .zoomed clicks factor =>
    Log.event .trace "zoomed" [("clicks", .number clicks), ("factor", .number factor)]
  | .panRejected e => Log.event .debug "pan rejected" [("err", .text e.message)]
  | .zoomRejected e clicks factor =>
    Log.event .debug "zoom rejected"
      [("err", .text e.message), ("clicks", .number clicks), ("factor", .number factor)]

def Pane.Notice.entry : Pane.Notice Float → Log.Entry
  | .tracker notice => notice.entry
  | .pointer notice => notice.entry

end GraphLens
