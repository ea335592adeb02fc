import Flowline.Signal

/-!
The record of a run: the outputs of the nodes that completed, in the order of completion. An output
is recorded once and never replaced.
-/

namespace Flowline

inductive ContextError where
  | outputAlreadyRecorded (node : NodeId)
deriving DecidableEq

def ContextError.message : ContextError → String
  | .outputAlreadyRecorded node => "Output for node '" ++ node ++ "' is already recorded"

structure Context where
  workflowId : String
  pipelineId : String
  initialData : Json.Object
  outputs : Entries Output
  completed : List NodeId
deriving DecidableEq

namespace Context

def create (workflowId pipelineId : String) (initialData : Json.Object) : Context where
  workflowId
  pipelineId
  initialData
  outputs := []
  completed := []

def output? (context : Context) (node : NodeId) : Option Output :=
  Entries.get? context.outputs node

def hasOutput (context : Context) (node : NodeId) : Bool := Entries.has context.outputs node

def record (context : Context) (node : NodeId) (output : Output) : Except ContextError Context :=
  if context.hasOutput node then .error (.outputAlreadyRecorded node)
  else .ok { context with
    outputs := Entries.insert context.outputs node output
    completed := context.completed ++ [node] }

/-- The data of every output, by node. -/
def outputValues (context : Context) : Json :=
  .object (Entries.mapValues Output.toValue context.outputs)

def toJson (context : Context) : Json :=
  Json.ofFields [
    ("workflowId", .string context.workflowId),
    ("pipelineId", .string context.pipelineId),
    ("initialData", .object context.initialData),
    ("outputs", .object (Entries.mapValues Output.toJson context.outputs)),
    ("completed", Json.strings context.completed)]

def decoder : Json.Decoder Context :=
  Json.Record.make Context.mk
    |>.field "workflowId" Json.Decoder.string .required
    |>.field "pipelineId" Json.Decoder.string .required
    |>.field "initialData" Json.Decoder.object .required
    |>.field "outputs" (Json.Decoder.entries Output.decoder) .required
    |>.field "completed" (Json.Decoder.list Json.Decoder.string) .required
    |>.decoder "NodeExecutionContext"

end Context

end Flowline
