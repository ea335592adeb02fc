import Flowline.Run.Event

/-!
A sink that writes one line for every event. Errors are warnings, all else is information.
-/

namespace Flowline

inductive LogLevel where
  | info
  | warn
deriving DecidableEq

def LogLevel.name : LogLevel → String
  | .info => "INFO"
  | .warn => "WARN"

structure LogLine where
  level : LogLevel
  text : String
deriving DecidableEq

def LogLine.render (line : LogLine) : String := line.level.name ++ " " ++ line.text

namespace StatusUpdate

/-- An error is told before a reason. -/
def line (node : NodeId) (update : StatusUpdate) : LogLine :=
  let start := "node '" ++ node ++ "' " ++ update.status.name
  match update.error, update.reason with
  | some error, _ => ⟨.warn, start ++ ": " ++ error⟩
  | none, some reason => ⟨.info, start ++ " (" ++ reason ++ ")"⟩
  | none, none => ⟨.info, start⟩

end StatusUpdate

def RunInfo.line (info : RunInfo) : LogLine where
  level := .info
  text := "monitoring workflow '" ++ info.workflowId ++ "' (" ++ info.totalNodes.repr ++
    " nodes, pipeline '" ++ info.pipelineId ++ "')"

def RunEvent.line : RunEvent → LogLine
  | .started info => info.line
  | .updated node update => update.line node
  | .finished status => ⟨.info, "run finished: " ++ status.title⟩

abbrev Journal := List LogLine

namespace Journal

def write (journal : Journal) (id : String) (event : RunEvent) : Journal :=
  journal ++ [{ event.line with text := "[" ++ id ++ "] " ++ event.line.text }]

def sink : Sink Journal where
  receive := fun id event journal => (.ok (), journal.write id event)

end Journal

end Flowline
