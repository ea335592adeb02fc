import Flowline.Json.Decoder
import Flowline.Stamps
import Flowline.Workflow.Format

/-!
What is reported while a run is under way. A run calls a sink for every event and goes on whatever
the sink answers.
-/

namespace Flowline

open Json.Decoder (string natural)

inductive RunStatus where
  | pending
  | compiling
  | executing
  | completed
  | failed
deriving DecidableEq

namespace RunStatus

def all : List RunStatus := [.pending, .compiling, .executing, .completed, .failed]

def name : RunStatus → String
  | .pending => "pending"
  | .compiling => "compiling"
  | .executing => "executing"
  | .completed => "completed"
  | .failed => "failed"

def title : RunStatus → String
  | .pending => "Pending"
  | .compiling => "Compiling"
  | .executing => "Executing"
  | .completed => "Completed"
  | .failed => "Failed"

def isTerminal : RunStatus → Bool
  | .completed | .failed => true
  | _ => false

def decoder : Json.Decoder RunStatus :=
  Json.Decoder.choice (all.map fun status => (status.name, status))

end RunStatus

/-- The name under which runs of one node after another are reported. -/
def runType : String := "synchronous"

structure RunInfo where
  workflowId : String
  pipelineId : String
  runType : String
  totalNodes : Nat
deriving DecidableEq

def RunInfo.decoder : Json.Decoder RunInfo :=
  Json.Record.make RunInfo.mk
    |>.field "workflowId" string .required
    |>.field "pipelineId" string .required
    |>.field "orchestratorType" string .required
    |>.field "totalNodes" (natural UInt64.size "usize") .required
    |>.decoder "MonitoringInfo"

inductive NodeStatus where
  | running
  | completed
  | failed
  | skipped
deriving DecidableEq

namespace NodeStatus

def all : List NodeStatus := [.running, .completed, .failed, .skipped]

def name : NodeStatus → String
  | .running => "running"
  | .completed => "completed"
  | .failed => "failed"
  | .skipped => "skipped"

def decoder : Json.Decoder NodeStatus :=
  Json.Decoder.choice (all.map fun status => (status.name, status))

end NodeStatus

structure StatusUpdate where
  status : NodeStatus
  type : Option String := none
  elapsedMs : Option Nat := none
  error : Option String := none
  reason : Option String := none
  timestamp : Timestamp
deriving DecidableEq

namespace StatusUpdate

def running (type : String) (timestamp : Timestamp) : StatusUpdate :=
  { status := .running, type := some type, timestamp }

def completed (type : String) (elapsedMs : Nat) (timestamp : Timestamp) : StatusUpdate :=
  { status := .completed, type := some type, elapsedMs := some elapsedMs, timestamp }

def failed (type error : String) (timestamp : Timestamp) : StatusUpdate :=
  { status := .failed, type := some type, error := some error, timestamp }

def skipped (type reason : String) (timestamp : Timestamp) : StatusUpdate :=
  { status := .skipped, type := some type, reason := some reason, timestamp }

def toJson (update : StatusUpdate) : Json :=
  Json.ofFields <|
    [("status", .string update.status.name)] ++
    Json.optionalField "nodeType" (update.type.map .string) ++
    Json.optionalField "executionTimeMs" (update.elapsedMs.map Json.ofNat) ++
    Json.optionalField "error" (update.error.map .string) ++
    Json.optionalField "reason" (update.reason.map .string) ++
    [("timestamp", .string update.timestamp)]

end StatusUpdate

inductive RunEvent where
  | started (info : RunInfo)
  | updated (node : NodeId) (update : StatusUpdate)
  | finished (status : RunStatus)
deriving DecidableEq

inductive MonitorError where
  | unknownExecution (id : String)
  | channelClosed
  | other (problem : String)
deriving DecidableEq

def MonitorError.message : MonitorError → String
  | .unknownExecution id => "Execution '" ++ id ++ "' is not being monitored"
  | .channelClosed => "Monitoring channel closed"
  | .other problem => "Monitoring error: " ++ problem

/-- A sink receives the events of executions, each under the id of its execution. -/
structure Sink (τ : Type) where
  receive : String → RunEvent → τ → Except MonitorError Unit × τ

namespace Sink

/-- Takes every event and keeps nothing. -/
def silent {τ : Type} : Sink τ where
  receive := fun _ _ state => (.ok (), state)

def broken {τ : Type} (error : MonitorError) : Sink τ where
  receive := fun _ _ state => (.error error, state)

end Sink

end Flowline
