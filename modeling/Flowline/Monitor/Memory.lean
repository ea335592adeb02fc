import Flowline.Run.Event

/-!
A sink that keeps every execution in memory: where it stands, when it was started and finished, the
last update of each node, and all updates in order of arrival. Starting an execution anew forgets
what was known of it; updates of an execution that was never started are refused and change nothing.
-/

namespace Flowline

structure Execution where
  info : RunInfo
  startedAt : Timestamp
  status : RunStatus := .executing
  finishedAt : Option Timestamp := none
  latest : Entries StatusUpdate := []
  history : List (NodeId × StatusUpdate) := []
deriving DecidableEq

namespace Execution

def update (execution : Execution) (node : NodeId) (update : StatusUpdate) : Execution :=
  { execution with
    latest := Entries.insert execution.latest node update
    history := execution.history ++ [(node, update)] }

def finish (execution : Execution) (status : RunStatus) (time : Timestamp) : Execution :=
  { execution with status, finishedAt := some time }

def count (execution : Execution) (status : NodeStatus) : Nat :=
  ((Entries.values execution.latest).filter fun update => update.status == status).length

def statusToJson (execution : Execution) : Json :=
  Json.ofFields <|
    [("workflow_id", .string execution.info.workflowId),
      ("pipeline_id", .string execution.info.pipelineId),
      ("state", .string execution.status.name),
      ("total_nodes", Json.ofNat execution.info.totalNodes),
      ("completed", Json.ofNat (execution.count .completed)),
      ("failed", Json.ofNat (execution.count .failed)),
      ("skipped", Json.ofNat (execution.count .skipped)),
      ("started_at", .string execution.startedAt)] ++
    Json.optionalField "finished_at" (execution.finishedAt.map .string)

end Execution

abbrev Memory := Entries Execution

namespace Memory

def execution? (memory : Memory) (id : String) : Option Execution := Entries.get? memory id

def ids (memory : Memory) : List String := Entries.keys memory

def history (memory : Memory) (id : String) : List (NodeId × StatusUpdate) :=
  ((memory.execution? id).map Execution.history).getD []

def change (memory : Memory) (id : String) (f : Execution → Execution) :
    Except MonitorError Unit × Memory :=
  match memory.execution? id with
  | none => (.error (.unknownExecution id), memory)
  | some execution => (.ok (), Entries.insert memory id (f execution))

/-- Takes in an event at the given time. -/
def receive (memory : Memory) (time : Timestamp) (id : String) :
    RunEvent → Except MonitorError Unit × Memory
  | .started info => (.ok (), Entries.insert memory id { info, startedAt := time })
  | .updated node update => memory.change id fun execution => execution.update node update
  | .finished status => memory.change id fun execution => execution.finish status time

def statusToJson (memory : Memory) (id : String) : Json :=
  Json.ofOption <| (memory.execution? id).map fun execution =>
    Json.ofFields [("execution_id", .string id), ("status", execution.statusToJson)]

def metricsToJson (memory : Memory) (id : String) : Json :=
  Json.ofOption <| (memory.execution? id).map fun execution =>
    Json.ofFields [
      ("execution_id", .string id),
      ("node_statuses", .object (Entries.mapValues StatusUpdate.toJson execution.latest))]

def historyToJson (memory : Memory) (id : String) : Json :=
  .array <| (memory.history id).map fun entry => .array [.string entry.1, entry.2.toJson]

def report (memory : Memory) (id : String) : Json :=
  Json.ofFields [
    ("status", memory.statusToJson id),
    ("metrics", memory.metricsToJson id),
    ("history", memory.historyToJson id)]

end Memory

/-- What a clock shows, from one look at it to the next. -/
abbrev Clock := Nat → Timestamp

/-- A memory beside the clock that it looks at for every event. -/
structure Monitor where
  clock : Clock
  memory : Memory := []

namespace Monitor

def receive (monitor : Monitor) (id : String) (event : RunEvent) :
    Except MonitorError Unit × Monitor :=
  let (answer, memory) := monitor.memory.receive (monitor.clock 0) id event
  (answer, { clock := fun look => monitor.clock (look + 1), memory })

def sink : Sink Monitor where
  receive := fun id event monitor => monitor.receive id event

end Monitor

end Flowline
