import Flowline.InputResolution
import Flowline.Run.Event
import Flowline.Run.Ledger
import Flowline.Run.Settings
import Flowline.Trigger

/-!
The walk along a plan. For each node it is decided, from the outputs on record and the branches
skipped so far, whether the node is skipped, lacks a dependency, or runs; the decision is carried
out before the next node is looked at. A failure ends the walk unless the settings tolerate it.
-/

namespace Flowline

inductive Decision where
  | skip (triggers : List (NodeId × Option PortId))
  | lack (source : NodeId)
  | run (inputs : Json.Object)
deriving DecidableEq

def decideNode (mappings : List InputMapping) (context : Context) (branchSkipped : List NodeId) :
    Decision :=
  match evaluateTriggers mappings context with
  | .inactive triggers => .skip triggers
  | _ =>
    match resolveInputs mappings context branchSkipped with
    | .missing source _ => .lack source
    | .ready inputs => .run inputs

variable {σ τ : Type}

structure RunSetup (σ τ : Type) where
  registry : Registry σ
  sink : Sink τ
  settings : RunSettings
  stamps : Stamps

/-- `world` is the state of the processors, `observer` that of the sink. -/
structure RunState (σ τ : Type) where
  context : Context
  ledger : Ledger := {}
  world : σ
  observer : τ

namespace RunSetup

/-- Reports an event; the answer of the sink is disregarded. -/
def emit (setup : RunSetup σ τ) (event : RunEvent) (observer : τ) : τ :=
  (setup.sink.receive setup.stamps.id event observer).2

def notify (setup : RunSetup σ τ) (node : NodeId) (update : StatusUpdate)
    (state : RunState σ τ) : RunState σ τ :=
  { state with observer := setup.emit (.updated node update) state.observer }

/-- Enters a failed result, which ends the run unless failures are tolerated. -/
def recordFailure (setup : RunSetup σ τ) (result : NodeResult) (fault : NodeFault)
    (state : RunState σ τ) : RunState σ τ :=
  let error := fault.message result.node
  let state := setup.notify result.node (.failed result.type error setup.stamps.timestamp) state
  let ledger := state.ledger.fail result
  { state with
    ledger :=
      if setup.settings.continueOnError then ledger
      else ledger.stop (.nodeFailed result.node error) }

/-- Records the output of a node that has succeeded, or stops if the context refuses it. -/
def recordSuccess (setup : RunSetup σ τ) (result : NodeResult) (output : Output)
    (state : RunState σ τ) : RunState σ τ :=
  match state.context.record result.node output with
  | .error error => { state with ledger := state.ledger.stop (.raised (.context error)) }
  | .ok context =>
    let state :=
      setup.notify result.node
        (.completed result.type setup.stamps.elapsedMs setup.stamps.timestamp)
        { state with context }
    { state with ledger := state.ledger.succeed result }

def enterResult (setup : RunSetup σ τ) (result : NodeResult) (state : RunState σ τ) :
    RunState σ τ :=
  match result.outcome with
  | .ok output => setup.recordSuccess result output state
  | .error fault => setup.recordFailure result fault state

def runNode (setup : RunSetup σ τ) (node : PlannedNode) (inputs : Json.Object)
    (state : RunState σ τ) : RunState σ τ :=
  let state := setup.notify node.node (.running node.type setup.stamps.timestamp) state
  let (outcome, world) := setup.registry.executeNode node.node node.type inputs
    (Json.Object.ofConfig node.config) state.context state.world
  let result :=
    match outcome with
    | .ok result => result
    | .error error => .within state.context node.node node.type (.error (.raised error))
  setup.enterResult result { state with world }

def skipBranch (setup : RunSetup σ τ) (node : PlannedNode)
    (triggers : List (NodeId × Option PortId)) (state : RunState σ τ) : RunState σ τ :=
  let reason := TriggerDecision.inactiveReason triggers
  setup.notify node.node (.skipped node.type reason setup.stamps.timestamp)
    { state with ledger := state.ledger.skipBranch node.node }

/-- A node without one of its dependencies fails or is skipped, as the policy has it. -/
def lackDependency (setup : RunSetup σ τ) (node : PlannedNode) (source : NodeId)
    (state : RunState σ τ) : RunState σ τ :=
  match setup.settings.missingDependency with
  | .skip =>
    setup.notify node.node
      (.skipped node.type (missingDependencyText source) setup.stamps.timestamp)
      { state with ledger := state.ledger.skipDependent node.node }
  | .fail =>
    let result :=
      NodeResult.within state.context node.node node.type (.error (.missingDependency source))
    setup.recordFailure result (.missingDependency source) state

def visit (setup : RunSetup σ τ) (mappings : List InputMapping) (node : PlannedNode)
    (state : RunState σ τ) : RunState σ τ :=
  match decideNode mappings state.context state.ledger.branchSkipped with
  | .skip triggers => setup.skipBranch node triggers state
  | .lack source => setup.lackDependency node source state
  | .run inputs => setup.runNode node inputs state

/-- Visits the listed nodes one after another until the run is stopped. -/
def walk (setup : RunSetup σ τ) (compiled : CompiledWorkflow) :
    List NodeId → RunState σ τ → RunState σ τ
  | [], state => state
  | id :: rest, state =>
    match compiled.node? id with
    | none => walk setup compiled rest state
    | some node =>
      let state := setup.visit (compiled.plan.inputsOf id) node state
      if state.ledger.isStopped then state else walk setup compiled rest state

end RunSetup

end Flowline
