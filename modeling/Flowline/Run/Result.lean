import Flowline.Registry
import Flowline.Stamps

/-!
Running a single node, and the result that is kept of it.
-/

namespace Flowline

/-- Why a node failed: its processor did not accept the inputs, a data source has no output, or
running it raised an error. -/
inductive NodeFault where
  | refusedInputs (missing : List PortId)
  | missingDependency (source : NodeId)
  | raised (error : RunError)
deriving DecidableEq

def missingDependencyText (source : NodeId) : String :=
  "Missing dependency: node " ++ inQuotes source ++ " did not complete successfully"

def NodeFault.message (node : NodeId) : NodeFault → String
  | .refusedInputs missing =>
    "Input validation failed for node " ++ inQuotes node ++
      (if missing.isEmpty then "" else ": missing " ++ ", ".intercalate missing)
  | .missingDependency source => missingDependencyText source
  | .raised error => error.message

/-- The result of a node together with the state of the run in which it arose. -/
structure NodeResult where
  node : NodeId
  type : String
  outcome : Except NodeFault Output
  workflowId : String
  pipelineId : String
  completedBefore : Nat

namespace NodeResult

def within (context : Context) (node : NodeId) (type : String)
    (outcome : Except NodeFault Output) : NodeResult where
  node
  type
  outcome
  workflowId := context.workflowId
  pipelineId := context.pipelineId
  completedBefore := context.completed.length

def isSuccess (result : NodeResult) : Bool := result.outcome.toBool

def error? (result : NodeResult) : Option String :=
  match result.outcome with
  | .ok _ => none
  | .error fault => some (fault.message result.node)

/-- The output; of a failed node it tells that and why it failed. -/
def output (result : NodeResult) : Output :=
  match result.outcome with
  | .ok output => output
  | .error fault =>
    .ofFields [("success", .bool false), ("error", .string (fault.message result.node))]

/-- The message of the fault, or else the text under `error` in the output. -/
def reportedError? (result : NodeResult) : Option String :=
  result.error?.or ((result.output.get? "error").bind Json.string?)

def toJson (stamps : Stamps) (result : NodeResult) : Json :=
  Json.ofFields <|
    [("nodeId", .string result.node), ("nodeType", .string result.type),
      ("status", .string (if result.isSuccess then "success" else "failed")),
      ("output", result.output.toJson)] ++
    Json.optionalField "error" (result.error?.map .string) ++
    [("executionTimeMs", Json.ofNat stamps.elapsedMs), ("timestamp", .string stamps.timestamp),
      ("context", Json.ofFields [
        ("workflowId", .string result.workflowId),
        ("pipelineId", .string result.pipelineId),
        ("completedNodes", Json.ofNat result.completedBefore)])]

end NodeResult

variable {σ : Type}

/-- Runs a node. Inputs that are not accepted make a failed result, and errors are handed on. -/
def Registry.executeNode (registry : Registry σ) (node : NodeId) (type : String)
    (inputs config : Json.Object) (context : Context) (state : σ) :
    Except RunError NodeResult × σ :=
  match registry.processor? type with
  | none => (.error (.unknownNodeType node type), state)
  | some processor =>
    if processor.accepts inputs state then
      let (outcome, state) := processor.process inputs config state
      (outcome.map fun output => .within context node type (.ok output.liftSignal), state)
    else
      let missing := processor.descriptor.missingInputs inputs
      (.ok (.within context node type (.error (.refusedInputs missing))), state)

end Flowline
