import GraphLens.Log
import GraphLens.Pipeline

namespace GraphLens.Pipeline

def Notice.entry : Notice → Log.Entry
  | .started ticket sourceLength =>
    ⟨.info, .span "compile",
      ("ticket", .count ticket.seq) ::
        (sourceLength.map fun n => ("source_len", Log.Value.count n)).toList⟩
  | .requested ticket => Log.event .debug "compile requested" [("ticket", .count ticket.seq)]
  | .reused specLength =>
    Log.event .debug "graph unchanged; reusing render" [("spec_len", .count specLength)]
  | .applied => Log.event .info "compile applied" []
  | .failed error =>
    Log.event .warn "compile failed; views left unchanged" [("err", .text error.message)]
  | .discarded latest =>
    Log.event .debug "stale compile result discarded"
      (latest.map fun ticket => ("latest", Log.Value.count ticket.seq)).toList

def calls {ι : Type} (activities : List (Activity ι)) : List (Call ι) :=
  activities.filterMap fun
    | .call call => some call
    | .notice _ => none

def notices {ι : Type} (activities : List (Activity ι)) : List Notice :=
  activities.filterMap fun
    | .call _ => none
    | .notice notice => some notice

end GraphLens.Pipeline
