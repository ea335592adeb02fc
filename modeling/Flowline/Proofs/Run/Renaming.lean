import Flowline.Proofs.Plan.Renaming
import Flowline.Proofs.Run.Reports

/-!
Runs of one workflow under two sets of node ids. Decisions, attempts and books are the same but for
the ids, visit by visit, and the texts that quote an id are the same sentences about the other one.
-/

namespace Flowline

variable {σ τ : Type}

section Decisions

open InputResolution (gather Gathered)

variable (names : Renaming)

def TriggerDecision.rename : TriggerDecision → TriggerDecision
  | .ungated => .ungated
  | .active edge => .active (names.edge edge)
  | .inactive triggers => .inactive (triggers.map (Prod.map names.node id))

def InputResolution.rename : InputResolution → InputResolution
  | .ready inputs => .ready inputs
  | .missing source edge => .missing (names.node source) (names.edge edge)

def Decision.rename : Decision → Decision
  | .skip triggers => .skip (triggers.map (Prod.map names.node id))
  | .lack source => .lack (names.node source)
  | .run inputs => .run inputs

/-- The same outputs are on record, under the other ids. -/
structure Context.Renamed (context other : Context) : Prop where
  workflowId : other.workflowId = context.workflowId
  pipelineId : other.pipelineId = context.pipelineId
  initialData : other.initialData = context.initialData
  outputs : ∀ id, other.output? (names.node id) = context.output? id
  completed : other.completed = context.completed.map names.node

variable {names} {context other : Context} (renamed : context.Renamed names other)

include renamed

theorem InputMapping.isActive_rename (mapping : InputMapping) :
    (mapping.rename names).isActive other = mapping.isActive context := by
  have recorded : other.output? (mapping.rename names).source = context.output? mapping.source :=
    renamed.outputs mapping.source
  rw [isActive, isActive, recorded]
  rfl

theorem evaluateTriggers_rename (mappings : List InputMapping) :
    evaluateTriggers (mappings.map (InputMapping.rename names)) other =
      (evaluateTriggers mappings context).rename names := by
  have triggers : (mappings.map (InputMapping.rename names)).filter InputMapping.isTrigger =
      (mappings.filter InputMapping.isTrigger).map (InputMapping.rename names) := by
    rw [List.filter_map]
    rfl
  unfold evaluateTriggers
  rw [triggers]
  cases mappings.filter InputMapping.isTrigger with
  | nil => rfl
  | cons trigger rest =>
      have active : ((trigger :: rest).map (InputMapping.rename names)).find?
            (fun mapping => mapping.isActive other) =
          ((trigger :: rest).find? fun mapping => mapping.isActive context).map
            (InputMapping.rename names) := by
        rw [List.find?_map]
        refine congrArg (Option.map _) (List.find?_congr fun mapping _ => ?_)
        exact mapping.isActive_rename renamed
      rw [List.map_cons] at active ⊢
      simp only [active]
      cases (trigger :: rest).find? fun mapping => mapping.isActive context with
      | none => simp [TriggerDecision.rename, InputMapping.rename]
      | some mapping => rfl

variable (injective : Function.Injective names.node) (branchSkipped : List NodeId)

include injective

theorem gather_rename (mappings : List InputMapping) (gathered : Gathered) :
    gather other (branchSkipped.map names.node) gathered
        (mappings.map (InputMapping.rename names)) =
      (gather context branchSkipped gathered mappings).rename names := by
  induction mappings generalizing gathered with
  | nil => rfl
  | cons mapping rest ih =>
      have recorded : other.output? (mapping.rename names).source =
          context.output? mapping.source := renamed.outputs mapping.source
      have skipped : (branchSkipped.map names.node).contains (mapping.rename names).source =
          branchSkipped.contains mapping.source := contains_map injective _ _
      rw [List.map_cons, gather, gather, recorded, skipped]
      cases context.output? mapping.source with
      | some output => exact ih _
      | none =>
          simp only
          split
          · exact ih gathered
          · rfl

theorem resolveInputs_rename (mappings : List InputMapping) :
    resolveInputs (mappings.map (InputMapping.rename names)) other
        (branchSkipped.map names.node) =
      (resolveInputs mappings context branchSkipped).rename names := by
  have data : (mappings.map (InputMapping.rename names)).filter InputMapping.isData =
      (mappings.filter InputMapping.isData).map (InputMapping.rename names) := by
    rw [List.filter_map]
    rfl
  unfold resolveInputs
  rw [data]
  cases mappings.filter InputMapping.isData with
  | nil => exact congrArg InputResolution.ready renamed.initialData
  | cons mapping rest =>
      exact gather_rename renamed injective branchSkipped (mapping :: rest) {}

theorem decideNode_rename (mappings : List InputMapping) :
    decideNode (mappings.map (InputMapping.rename names)) other
        (branchSkipped.map names.node) =
      (decideNode mappings context branchSkipped).rename names := by
  unfold decideNode
  rw [evaluateTriggers_rename renamed, resolveInputs_rename renamed injective]
  cases evaluateTriggers mappings context with
  | inactive triggers => rfl
  | ungated =>
      cases resolveInputs mappings context branchSkipped <;> rfl
  | active edge =>
      cases resolveInputs mappings context branchSkipped <;> rfl

end Decisions

section Books

variable (name : NodeId → NodeId)

/-- The same fault of a node under its other id. What a processor raises does not know of ids. -/
inductive NodeFault.Renamed (node : NodeId) : NodeFault → NodeFault → Prop
  | refused (missing : List PortId) : Renamed node (.refusedInputs missing) (.refusedInputs missing)
  | lacking (source : NodeId) :
      Renamed node (.missingDependency source) (.missingDependency (name source))
  | unknown (type : String) :
      Renamed node (.raised (.unknownNodeType node type))
        (.raised (.unknownNodeType (name node) type))
  | raised (error : RunError) : Renamed node (.raised error) (.raised error)

inductive OutcomeRenamed (node : NodeId) :
    Except NodeFault Output → Except NodeFault Output → Prop
  | ok (output : Output) : OutcomeRenamed node (.ok output) (.ok output)
  | error {fault other : NodeFault} (renamed : fault.Renamed name node other) :
      OutcomeRenamed node (.error fault) (.error other)

inductive Fate.Renamed (node : NodeId) : Fate → Fate → Prop
  | branchSkipped : Renamed node .branchSkipped .branchSkipped
  | dependencySkipped : Renamed node .dependencySkipped .dependencySkipped
  | finished {outcome other : Except NodeFault Output}
      (renamed : OutcomeRenamed name node outcome other) :
      Renamed node (.finished outcome) (.finished other)

inductive RunFault.Renamed : RunFault → RunFault → Prop
  | notCompiled (error : CompileError) :
      Renamed (.notCompiled error) (.notCompiled (error.rename (.ofNodes name)))
  | nodeFailed (node : NodeId) {fault other : NodeFault}
      (renamed : fault.Renamed name node other) :
      Renamed (.nodeFailed node (fault.message node))
        (.nodeFailed (name node) (other.message (name node)))

structure NodeResult.Renamed (result other : NodeResult) : Prop where
  node : other.node = name result.node
  type : other.type = result.type
  outcome : OutcomeRenamed name result.node result.outcome other.outcome
  workflowId : other.workflowId = result.workflowId
  pipelineId : other.pipelineId = result.pipelineId
  completedBefore : other.completedBefore = result.completedBefore

structure Ledger.Renamed (ledger other : Ledger) : Prop where
  results : List.Forall₂ (NodeResult.Renamed name) ledger.results other.results
  skipped : other.skipped = ledger.skipped.map name
  branchSkipped : other.branchSkipped = ledger.branchSkipped.map name
  failed : other.failed = ledger.failed.map name
  abort : Option.Rel (RunFault.Renamed name) ledger.abort other.abort

structure RunState.Renamed (state other : RunState σ τ) : Prop where
  context : state.context.Renamed (.ofNodes name) other.context
  ledger : state.ledger.Renamed name other.ledger
  world : other.world = state.world

/-- The same response about the nodes under their other ids. -/
structure RunResponse.Renamed (response other : RunResponse) : Prop where
  status : other.status = response.status
  totalNodes : other.totalNodes = response.totalNodes
  results : List.Forall₂ (NodeResult.Renamed name) response.results other.results
  skipped : other.skipped = response.skipped.map name
  failed : other.failed = response.failed.map name
  fault : Option.Rel (RunFault.Renamed name) response.fault other.fault

/-- The same update of a node under its other id; what it quotes is quoted under its other id. -/
inductive StatusUpdate.Renamed (node : NodeId) : StatusUpdate → StatusUpdate → Prop
  | running (type : String) (time : Timestamp) :
      Renamed node (.running type time) (.running type time)
  | completed (type : String) (elapsedMs : Nat) (time : Timestamp) :
      Renamed node (.completed type elapsedMs time) (.completed type elapsedMs time)
  | failed (type : String) {fault other : NodeFault} (renamed : fault.Renamed name node other)
      (time : Timestamp) :
      Renamed node (.failed type (fault.message node) time)
        (.failed type (other.message (name node)) time)
  | branchSkipped (type : String) (triggers : List (NodeId × Option PortId)) (time : Timestamp) :
      Renamed node (.skipped type (TriggerDecision.inactiveReason triggers) time)
        (.skipped type (TriggerDecision.inactiveReason (triggers.map (Prod.map name id))) time)
  | dependencySkipped (type : String) (source : NodeId) (time : Timestamp) :
      Renamed node (.skipped type (missingDependencyText source) time)
        (.skipped type (missingDependencyText (name source)) time)

inductive RunEvent.Renamed : RunEvent → RunEvent → Prop
  | started (info : RunInfo) : Renamed (.started info) (.started info)
  | updated (node : NodeId) {update other : StatusUpdate}
      (renamed : update.Renamed name node other) :
      Renamed (.updated node update) (.updated (name node) other)
  | finished (status : RunStatus) : Renamed (.finished status) (.finished status)

end Books

variable {name : NodeId → NodeId}

theorem OutcomeRenamed.output?_eq {node : NodeId} {outcome other : Except NodeFault Output}
    (renamed : OutcomeRenamed name node outcome other) :
    (Fate.finished other).output? = (Fate.finished outcome).output? := by
  cases renamed <;> rfl

theorem Fate.Renamed.output?_eq {node : NodeId} {fate other : Fate}
    (renamed : fate.Renamed name node other) : other.output? = fate.output? := by
  cases renamed with
  | branchSkipped => rfl
  | dependencySkipped => rfl
  | finished renamed => exact renamed.output?_eq

theorem Context.Renamed.enter (injective : Function.Injective name) {context other : Context}
    (renamed : context.Renamed (.ofNodes name) other) (node : NodeId) {fate label : Fate}
    (same : label.output? = fate.output?) :
    (context.enter node fate).Renamed (.ofNodes name) (other.enter (name node) label) := by
  unfold Context.enter
  rw [same]
  cases fate.output? with
  | none => exact renamed
  | some output =>
      refine ⟨renamed.workflowId, renamed.pipelineId, renamed.initialData, fun id => ?_, ?_⟩
      · have earlier : other.output? (name id) = context.output? id := renamed.outputs id
        simp only [Context.output?, Renaming.ofNodes, Entries.get?_insert, injective.eq_iff]
          at earlier ⊢
        rw [earlier]
      · change other.completed ++ [name node] = (context.completed ++ [node]).map name
        rw [renamed.completed, List.map_append]
        rfl

theorem Ledger.Renamed.enter {ledger other : Ledger} (renamed : ledger.Renamed name other)
    {context otherContext : Context} (contexts : context.Renamed (.ofNodes name) otherContext)
    {node : PlannedNode} {fate label : Fate} (same : fate.Renamed name node.node label) :
    (ledger.enter context node fate).Renamed name
      (other.enter otherContext (node.rename (.ofNodes name)) label) := by
  have appended (ids otherIds : List NodeId) (same : otherIds = ids.map name) :
      otherIds ++ [name node.node] = (ids ++ [node.node]).map name := by
    rw [same, List.map_append, List.map_singleton]
  have within {outcome otherOutcome : Except NodeFault Output}
      (same : OutcomeRenamed name node.node outcome otherOutcome) :
      (NodeResult.within context node.node node.type outcome).Renamed name
        (NodeResult.within otherContext (name node.node) node.type otherOutcome) := by
    refine ⟨rfl, rfl, same, contexts.workflowId, contexts.pipelineId, ?_⟩
    exact (congrArg List.length contexts.completed).trans (List.length_map _)
  cases same with
  | branchSkipped =>
      exact { renamed with
        skipped := appended _ _ renamed.skipped
        branchSkipped := congrArg (name node.node :: ·) renamed.branchSkipped }
  | dependencySkipped => exact { renamed with skipped := appended _ _ renamed.skipped }
  | finished outcome =>
      have results := List.rel_append renamed.results (.cons (within outcome) .nil)
      cases outcome with
      | ok output => exact { renamed with results := results }
      | error fault =>
          exact { renamed with
            results := results
            failed := appended _ _ renamed.failed }

theorem Ledger.Renamed.isStopped_eq {ledger other : Ledger} (renamed : ledger.Renamed name other) :
    other.isStopped = ledger.isStopped :=
  isSome_eq_of_rel renamed.abort

namespace Registry

/-- A node is attempted under the type that it has, whatever its id is. -/
theorem attempt_renamed (registry : Registry σ) (name : NodeId → NodeId) (node : PlannedNode)
    (inputs : Json.Object) (world : σ) :
    OutcomeRenamed name node.node (registry.attempt node inputs world).1
        (registry.attempt (node.rename (.ofNodes name)) inputs world).1 ∧
      (registry.attempt (node.rename (.ofNodes name)) inputs world).2 =
        (registry.attempt node inputs world).2 := by
  have kept (reply : Except RunError Output) :
      OutcomeRenamed name node.node ((reply.map Output.liftSignal).mapError .raised)
        ((reply.map Output.liftSignal).mapError .raised) := by
    cases reply with
    | ok output => exact .ok _
    | error error => exact .error (.raised error)
  simp only [attempt, PlannedNode.rename]
  cases registry.processor? node.type with
  | none => exact ⟨.error (.unknown node.type), rfl⟩
  | some processor =>
      simp only
      split
      · exact ⟨kept _, trivial⟩
      · exact ⟨.error (.refused _), trivial⟩

end Registry

namespace RunSetup

variable (setup : RunSetup σ τ) {compiled : CompiledWorkflow} {state other : RunState σ τ}
  {rest : List NodeId}

theorem settle_renamed (name : NodeId → NodeId) (node : PlannedNode) (world : σ)
    (decision : Decision) :
    (setup.settle node world decision).1.Renamed name node.node
        (setup.settle (node.rename (.ofNodes name)) world (decision.rename (.ofNodes name))).1 ∧
      (setup.settle (node.rename (.ofNodes name)) world (decision.rename (.ofNodes name))).2 =
        (setup.settle node world decision).2 := by
  cases decision with
  | skip triggers => exact ⟨.branchSkipped, rfl⟩
  | lack source =>
      simp only [settle, Decision.rename]
      cases setup.settings.missingDependency with
      | skip => exact ⟨.dependencySkipped, rfl⟩
      | fail => exact ⟨.finished (.error (.lacking source)), rfl⟩
  | run inputs =>
      obtain ⟨outcome, sameWorld⟩ := setup.registry.attempt_renamed name node inputs world
      exact ⟨.finished outcome, sameWorld⟩

theorem stop?_renamed {node : NodeId} {fate label : Fate} (same : fate.Renamed name node label) :
    Option.Rel (RunFault.Renamed name) (setup.stop? node fate)
      (setup.stop? (name node) label) := by
  cases same with
  | branchSkipped => exact .none
  | dependencySkipped => exact .none
  | finished outcome =>
      cases outcome with
      | ok output => exact .none
      | error fault =>
          simp only [stop?]
          split
          · exact .none
          · exact .some (.nodeFailed node fault)

theorem report_renamed (node : PlannedNode) {outcome otherOutcome : Except NodeFault Output}
    (same : OutcomeRenamed name node.node outcome otherOutcome) :
    (setup.report node outcome).Renamed name node.node
      (setup.report (node.rename (.ofNodes name)) otherOutcome) := by
  cases same with
  | ok output => exact .completed node.type _ _
  | error fault => exact .failed node.type fault _

theorem updates_renamed (name : NodeId → NodeId) (node : PlannedNode) (world : σ)
    (decision : Decision) :
    List.Forall₂ (StatusUpdate.Renamed name node.node) (setup.updates node world decision)
      (setup.updates (node.rename (.ofNodes name)) world (decision.rename (.ofNodes name))) := by
  cases decision with
  | skip triggers => exact .cons (.branchSkipped node.type triggers _) .nil
  | lack source =>
      simp only [updates, Decision.rename]
      cases setup.settings.missingDependency with
      | skip => exact .cons (.dependencySkipped node.type source _) .nil
      | fail => exact .cons (setup.report_renamed node (.error (.lacking source))) .nil
  | run inputs =>
      have outcome := (setup.registry.attempt_renamed name node inputs world).1
      exact .cons (.running node.type _) (.cons (setup.report_renamed node outcome) .nil)

theorem entered_renamed (injective : Function.Injective name) (renamed : state.Renamed name other)
    {node : PlannedNode} {fate label : Fate} (same : fate.Renamed name node.node label) (world : σ)
    (observer otherObserver : τ) :
    (setup.entered node fate state world observer).Renamed name
      (setup.entered (node.rename (.ofNodes name)) label other world otherObserver) where
  context := renamed.context.enter injective node.node same.output?_eq
  ledger :=
    { renamed.ledger.enter renamed.context same with
      abort := or_rel (setup.stop?_renamed same) renamed.ledger.abort }
  world := rfl

end RunSetup

/-- What is reported of a node, and the same about the node under its other id. -/
structure ReportRenamed (name : NodeId → NodeId) (report other : NodeId × List StatusUpdate) :
    Prop where
  node : other.1 = name report.1
  updates : List.Forall₂ (StatusUpdate.Renamed name report.1) report.2 other.2

theorem narration_renamed {reports others : List (NodeId × List StatusUpdate)}
    (renamed : List.Forall₂ (ReportRenamed name) reports others) :
    List.Forall₂ (RunEvent.Renamed name) (narration reports) (narration others) := by
  induction renamed with
  | nil => exact .nil
  | cons head _ ih =>
      rw [narration_cons, narration_cons]
      refine List.rel_append ?_ ih
      rw [head.node, List.forall₂_map_left_iff, List.forall₂_map_right_iff]
      exact head.updates.imp fun _ _ same => .updated _ same

section Walk

variable {compiled : CompiledWorkflow} {state other : RunState σ τ} {rest : List NodeId}
  {workflow : Workflow} (injective : Function.Injective name)
  (compiles : workflow.compile = .ok compiled)

include injective

theorem RunState.Renamed.decide (renamed : state.Renamed name other)
    (mappings : List InputMapping) :
    decideNode (mappings.map (InputMapping.rename (.ofNodes name))) other.context
        other.ledger.branchSkipped =
      (decideNode mappings state.context state.ledger.branchSkipped).rename (.ofNodes name) := by
  rw [renamed.ledger.branchSkipped]
  exact decideNode_rename renamed.context injective state.ledger.branchSkipped mappings

theorem RunSetup.visit_renamed (setup : RunSetup σ τ) (renamed : state.Renamed name other)
    {node : PlannedNode} (mappings : List InputMapping)
    (fresh : state.context.output? node.node = none) :
    (setup.visit mappings node state).Renamed name
      (setup.visit (mappings.map (InputMapping.rename (.ofNodes name)))
        (node.rename (.ofNodes name)) other) := by
  have otherFresh : other.context.output? (node.rename (.ofNodes name)).node = none :=
    (renamed.context.outputs node.node).trans fresh
  obtain ⟨observer, entry⟩ := setup.visit_eq mappings node state fresh
  obtain ⟨otherObserver, otherEntry⟩ :=
    setup.visit_eq (mappings.map (InputMapping.rename (.ofNodes name)))
      (node.rename (.ofNodes name)) other otherFresh
  obtain ⟨fate, world⟩ := setup.settle_renamed name node state.world
    (decideNode mappings state.context state.ledger.branchSkipped)
  rw [entry, otherEntry, settled, settled, renamed.decide injective, renamed.world, world]
  exact setup.entered_renamed injective renamed fate _ _ _

include compiles

theorem inputsOf_renamed (id : NodeId) :
    (compiled.rename (.ofNodes name)).plan.inputsOf (name id) =
      (compiled.plan.inputsOf id).map (InputMapping.rename (.ofNodes name)) :=
  Workflow.inputsOf_rename injective compiles id

theorem RunState.Renamed.decision (renamed : state.Renamed name other) (node : PlannedNode) :
    other.decision (compiled.rename (.ofNodes name)) (node.rename (.ofNodes name)) =
      (state.decision compiled node).rename (.ofNodes name) := by
  rw [RunState.decision, RunState.decision, ← renamed.decide injective,
    ← inputsOf_renamed injective compiles]
  rfl

theorem RunSetup.told_renamed (setup : RunSetup σ τ) (renamed : state.Renamed name other)
    (node : PlannedNode) :
    ReportRenamed name
      (node.node, setup.updates node state.world (state.decision compiled node))
      (name node.node, setup.updates (node.rename (.ofNodes name)) other.world
        (other.decision (compiled.rename (.ofNodes name)) (node.rename (.ofNodes name)))) where
  node := rfl
  updates := by
    rw [renamed.decision injective compiles, renamed.world]
    exact setup.updates_renamed name node state.world (state.decision compiled node)

/-- The two walks go along the same nodes, and what one visit keeps alike the rest of them does. -/
theorem RunSetup.walk_renamed (setup : RunSetup σ τ) (pending : state.Pending compiled rest)
    (otherPending : other.Pending (compiled.rename (.ofNodes name)) (rest.map name))
    (renamed : state.Renamed name other) :
    (setup.walk compiled rest state).Renamed name
        (setup.walk (compiled.rename (.ofNodes name)) (rest.map name) other) ∧
      List.Forall₂ (ReportRenamed name) (setup.reports compiled rest state)
        (setup.reports (compiled.rename (.ofNodes name)) (rest.map name) other) := by
  induction rest generalizing state other with
  | nil => exact ⟨renamed, .nil⟩
  | cons id rest ih =>
      obtain ⟨node, found, rfl, visited⟩ := setup.visited_of_pending pending
      obtain ⟨otherNode, otherFound, _, otherVisited⟩ := setup.visited_of_pending otherPending
      have planned : (compiled.rename (.ofNodes name)).node? (name node.node) =
          (compiled.node? node.node).map (PlannedNode.rename (.ofNodes name)) :=
        Workflow.node?_rename injective compiles node.node
      rw [found, Option.map_some] at planned
      -- The node found under the other id is the same one.
      cases otherFound.symm.trans planned
      have next := setup.visit_renamed injective renamed (compiled.plan.inputsOf node.node)
        visited.fresh
      rw [← inputsOf_renamed injective compiles] at next
      have told := setup.told_renamed injective compiles renamed node
      rw [List.map_cons, RunSetup.reports, RunSetup.reports, setup.walk_cons _ _ found,
        setup.walk_cons _ _ otherFound, setup.trace_cons _ _ _ found,
        setup.trace_cons _ _ _ otherFound, next.ledger.isStopped_eq]
      split
      · exact ⟨next, .cons told .nil⟩
      · obtain ⟨laterRenamed, laterReports⟩ := ih visited.pending otherVisited.pending next
        exact ⟨laterRenamed, .cons told laterReports⟩

end Walk

def RunRequest.renameIds (name : NodeId → NodeId) (request : RunRequest) : RunRequest :=
  { request with workflow := request.workflow.renameIds name }

namespace Orchestrator

section Injective

variable (orchestrator : Orchestrator σ τ) {request : RunRequest} {compiled : CompiledWorkflow}
  (world : σ) (observer otherObserver : τ)

theorem start_renamed (name : NodeId → NodeId) (request : RunRequest)
    (compiled : CompiledWorkflow) :
    (orchestrator.start request compiled world observer).Renamed name
      (orchestrator.start (request.renameIds name) (compiled.rename (.ofNodes name)) world
        otherObserver) where
  context := ⟨rfl, rfl, rfl, fun _ => rfl, rfl⟩
  ledger := ⟨.nil, rfl, rfl, rfl, .none⟩
  world := rfl

variable (injective : Function.Injective name)

include injective

theorem final_renamed (compiles : request.workflow.compile = .ok compiled)
    (renamedCompiles :
      (request.renameIds name).workflow.compile = .ok (compiled.rename (.ofNodes name))) :
    (orchestrator.final request compiled world observer).Renamed name
        (orchestrator.final (request.renameIds name) (compiled.rename (.ofNodes name)) world
          otherObserver) ∧
      List.Forall₂ (ReportRenamed name) (orchestrator.reports request compiled world observer)
        (orchestrator.reports (request.renameIds name) (compiled.rename (.ofNodes name)) world
          otherObserver) :=
  (orchestrator.setup request.options).walk_renamed injective compiles
    (pending_start compiles world observer) (pending_start renamedCompiles world otherObserver)
    (orchestrator.start_renamed world observer otherObserver name request compiled)

theorem run_renamed
    (compiles : (request.renameIds name).workflow.compile =
      (request.workflow.compile.map (CompiledWorkflow.rename (.ofNodes name))).mapError
        (CompileError.rename (.ofNodes name))) :
    let run := orchestrator.orchestrate request world observer
    let renamed := orchestrator.orchestrate (request.renameIds name) world otherObserver
    run.1.Renamed name renamed.1 ∧ renamed.2.1 = run.2.1 ∧
      List.Forall₂ (RunEvent.Renamed name) (orchestrator.events request world observer)
        (orchestrator.events (request.renameIds name) world otherObserver) := by
  intro run renamed
  cases outcome : request.workflow.compile with
  | error error =>
      have refused : (request.renameIds name).workflow.compile =
          .error (error.rename (.ofNodes name)) := by
        rw [compiles, outcome]
        rfl
      have count : (request.renameIds name).workflow.nodes.length =
          request.workflow.nodes.length := List.length_map _
      simp only [run, renamed, orchestrate, events, outcome, refused, count]
      exact ⟨⟨rfl, rfl, .nil, rfl, rfl, .some (.notCompiled error)⟩, trivial,
        .cons (.started _) (.cons (.finished _) .nil)⟩
  | ok compiled =>
      have accepted : (request.renameIds name).workflow.compile =
          .ok (compiled.rename (.ofNodes name)) := by
        rw [compiles, outcome]
        rfl
      have count : (compiled.rename (.ofNodes name)).nodeCount = compiled.nodeCount :=
        List.length_map _
      obtain ⟨final, reports⟩ := orchestrator.final_renamed world observer otherObserver injective
        outcome accepted
      have status : finalStatus (orchestrator.final (request.renameIds name)
            (compiled.rename (.ofNodes name)) world otherObserver).ledger =
          finalStatus (orchestrator.final request compiled world observer).ledger := by
        rw [finalStatus, final.ledger.isStopped_eq]
        rfl
      rw [events_compiled outcome, events_compiled accepted]
      simp only [run, renamed, orchestrate_compiled outcome, orchestrate_compiled accepted, count,
        status]
      refine ⟨⟨rfl, rfl, final.ledger.results, final.ledger.skipped, final.ledger.failed,
        final.ledger.abort⟩, final.world, .cons (.started _) ?_⟩
      exact List.rel_append (narration_renamed reports) (.cons (.finished _) .nil)

/-- Node ids are opaque. Where no handle has its marker twice, giving the nodes other ids leaves the
handles readable as before; the workflow compiles to the same plan or is refused for the same cause
under the other ids, and every run comes to the same response and reports the same events. -/
theorem orchestrate_renamed (request : RunRequest)
    (once : ∀ edge ∈ request.workflow.edges, edge.MarkedOnce) :
    let workflow := request.workflow.renameIds name
    workflow.resolvedEdges = (request.workflow.resolvedEdges.map fun edge =>
        { edge with source := name edge.source, target := name edge.target }) ∧
      workflow.resolvedEdges.map ResolvedEdge.kind =
        request.workflow.resolvedEdges.map ResolvedEdge.kind ∧
      workflow.compile =
        (request.workflow.compile.map (CompiledWorkflow.rename (.ofNodes name))).mapError
          (CompileError.rename (.ofNodes name)) ∧
      ∀ {σ τ : Type} (orchestrator : Orchestrator σ τ) (world : σ) (observer otherObserver : τ),
        let run := orchestrator.orchestrate request world observer
        let renamed := orchestrator.orchestrate (request.renameIds name) world otherObserver
        run.1.Renamed name renamed.1 ∧ renamed.2.1 = run.2.1 ∧
          List.Forall₂ (RunEvent.Renamed name) (orchestrator.events request world observer)
            (orchestrator.events (request.renameIds name) world otherObserver) := by
  intro workflow
  have edges := Workflow.resolvedEdges_renameIds name once
  have compiles := Workflow.compile_renameIds injective once
  refine ⟨edges, ?_, compiles, ?_⟩
  · rw [edges, List.map_map]
    rfl
  · intro σ τ orchestrator world observer otherObserver
    exact orchestrator.run_renamed world observer otherObserver injective compiles

end Injective

/-- The handles still quote the ids from before, and the same branch is skipped. -/
theorem orchestrate_renamed_forked :
    (∀ edge ∈ forked.edges, edge.MarkedOnce) ∧
      (forked.renameIds ("new-" ++ ·)).compile =
        .ok ((forked.assemble forkedOrder).rename (.ofNodes ("new-" ++ ·))) ∧
      (gateways.orchestrate (forkedRequest.renameIds ("new-" ++ ·)) () ()).1.skipped =
        ["new-no"] := by
  have injective : Function.Injective ("new-" ++ ·) := fun _ _ same =>
    (String.append_right_inj "new-").mp same
  have once : ∀ edge ∈ forked.edges, edge.MarkedOnce := by
    intro edge member
    rcases List.mem_pair.mp member with rfl | rfl
    all_goals exact ⟨by rintro _ ⟨⟩; decide, by rintro _ ⟨⟩; decide⟩
  obtain ⟨_, _, compiles, runs⟩ := orchestrate_renamed injective forkedRequest once
  have compiled : forkedRequest.workflow.compile = .ok (forked.assemble forkedOrder) := by
    decide +kernel
  have skipped : (gateways.orchestrate forkedRequest () ()).1.skipped = ["no"] := by
    decide +kernel
  refine ⟨once, ?_, ?_⟩
  · rw [compiled] at compiles
    exact compiles
  · rw [(runs gateways () () ()).1.skipped, skipped]
    rfl

end Orchestrator

end Flowline
