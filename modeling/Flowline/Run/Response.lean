import Flowline.Run.Walk

/-!
A run from request to response. A workflow that does not compile makes a failed run without
results; otherwise the run is completed unless the walk was stopped.
-/

namespace Flowline

structure RunResponse where
  status : RunStatus
  totalNodes : Nat
  results : List NodeResult
  skipped : List NodeId
  failed : List NodeId
  fault : Option RunFault

namespace RunResponse

def ofLedger (status : RunStatus) (totalNodes : Nat) (ledger : Ledger) : RunResponse where
  status
  totalNodes
  results := ledger.results
  skipped := ledger.skipped
  failed := ledger.failed
  fault := ledger.abort

def result? (response : RunResponse) (node : NodeId) : Option NodeResult :=
  response.results.find? fun result => result.node == node

def wasSkipped (response : RunResponse) (node : NodeId) : Bool := response.skipped.contains node

def executed (response : RunResponse) : List NodeId := response.results.map NodeResult.node

def error? (response : RunResponse) : Option String := response.fault.map RunFault.message

def summaryToJson (response : RunResponse) : Json :=
  Json.ofFields <|
    [("orchestrator_type", .string runType), ("total_nodes", Json.ofNat response.totalNodes),
      ("nodes_executed", Json.ofNat response.results.length),
      ("nodes_skipped", Json.ofNat response.skipped.length),
      ("skipped_node_ids", Json.strings response.skipped),
      ("nodes_failed", Json.ofNat response.failed.length),
      ("failed_node_ids", Json.strings response.failed)] ++
    Json.optionalField "error" (response.error?.map .string)

def toJson (stamps : Stamps) (response : RunResponse) : Json :=
  Json.ofFields [
    ("executionId", .string stamps.id),
    ("status", .string response.status.name),
    ("results", .array (response.results.map (NodeResult.toJson stamps))),
    ("executionTimeMs", Json.ofNat stamps.elapsedMs),
    ("metadata", response.summaryToJson)]

end RunResponse

variable {σ τ : Type}

/-- What a run is carried out with; `defaults` hold where the request does not override them. -/
structure Orchestrator (σ τ : Type) where
  registry : Registry σ
  sink : Sink τ
  defaults : RunSettings := {}
  stamps : Stamps := .placeholder

namespace Orchestrator

def setup (orchestrator : Orchestrator σ τ) (options : RunOptions) : RunSetup σ τ where
  registry := orchestrator.registry
  sink := orchestrator.sink
  settings := options.resolve orchestrator.defaults
  stamps := orchestrator.stamps

def info (request : RunRequest) (totalNodes : Nat) : RunInfo where
  workflowId := request.workflowId
  pipelineId := request.pipelineId
  runType := runType
  totalNodes

def initialState (request : RunRequest) (world : σ) (observer : τ) : RunState σ τ where
  context := .create request.workflowId request.pipelineId request.initialData
  world
  observer

def finalStatus (ledger : Ledger) : RunStatus := if ledger.isStopped then .failed else .completed

/-- The response of a run, with the states in which it leaves processors and sink. -/
def orchestrate (orchestrator : Orchestrator σ τ) (request : RunRequest) (world : σ)
    (observer : τ) : RunResponse × σ × τ :=
  let setup := orchestrator.setup request.options
  match request.workflow.compile with
  | .error error =>
    let totalNodes := request.workflow.nodes.length
    let observer := setup.emit (.started (info request totalNodes)) observer
    let observer := setup.emit (.finished .failed) observer
    (.ofLedger .failed totalNodes (Ledger.stop {} (.notCompiled error)), world, observer)
  | .ok compiled =>
    let observer := setup.emit (.started (info request compiled.nodeCount)) observer
    let state := setup.walk compiled compiled.plan.order (initialState request world observer)
    let status := finalStatus state.ledger
    (.ofLedger status compiled.nodeCount state.ledger, state.world,
      setup.emit (.finished status) state.observer)

end Orchestrator

end Flowline
