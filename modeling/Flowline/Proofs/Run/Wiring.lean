import Flowline.Proofs.Run.Renaming
import Mathlib.Logic.Relation

/-!
Different ways to write the same edges. An edge may have any id, a handle may be empty instead of
absent, and a connection may as well be an edge without handles: what is compiled is the same but
for the ids of its edges, and no run looks at those.
-/

namespace Flowline

/-- Nodes keep their ids, and no edge is told from another one by its id. -/
def Renaming.unlabelled : Renaming where
  node := id
  edge := fun _ => ""

namespace Workflow

/-- The same edge but for its id, and with an empty handle counted as none. -/
structure Edge.Alike (edge other : Edge) : Prop where
  source : other.source = edge.source
  target : other.target = edge.target
  sourceHandle : other.sourceHandle.getD "" = edge.sourceHandle.getD ""
  targetHandle : other.targetHandle.getD "" = edge.targetHandle.getD ""

/-- The connection as an edge without handles. -/
def Connection.edge (connection : Connection) : Edge where
  source := connection.source
  target := connection.target

/-- One step of writing the edges of a workflow in another way. -/
inductive Rewired (workflow : Workflow) : Workflow → Prop
  | redrawn {edges : List Edge} (alike : List.Forall₂ Edge.Alike workflow.edges edges) :
      Rewired workflow { workflow with edges }
  | moved :
      Rewired workflow { workflow with
        edges := workflow.edges ++ workflow.connections.map Connection.edge, connections := [] }

/-- What is left of an edge when its id is taken away. -/
def Edge.unlabelled (edge : Edge) : ResolvedEdge := (edge.resolve 0).rename .unlabelled

theorem Edge.Alike.unlabelled_eq {edge other : Edge} (alike : edge.Alike other) :
    other.unlabelled = edge.unlabelled := by
  have read (side : Handle.Side) (node : NodeId) (handle : Option String) :
      handle.bind (Handle.port? side node) = Handle.port? side node (handle.getD "") := by
    cases handle with
    | none => exact (Handle.port?_empty side node).symm
    | some text => rfl
  simp only [unlabelled, resolve, ResolvedEdge.rename, read, alike.source, alike.target,
    alike.sourceHandle, alike.targetHandle]
  rfl

theorem map_unlabelled_eq {edges others : List Edge}
    (alike : List.Forall₂ Edge.Alike edges others) :
    others.map Edge.unlabelled = edges.map Edge.unlabelled := by
  induction alike with
  | nil => rfl
  | cons head _ ih => rw [List.map_cons, List.map_cons, head.unlabelled_eq, ih]

theorem unlabelled_resolvedEdges (workflow : Workflow) :
    workflow.resolvedEdges.map (ResolvedEdge.rename .unlabelled) =
      (workflow.edges ++ workflow.connections.map Connection.edge).map Edge.unlabelled := by
  -- Without its id, an edge does not show its place.
  rw [resolvedEdges, List.map_append, List.map_append, List.map_map, map_mapIdx, map_mapIdx,
    ← mapIdx_unnumbered, ← mapIdx_unnumbered]
  rfl

/-- The same nodes, and the same edges but for their ids. -/
structure SameWiring (workflow other : Workflow) : Prop where
  id : other.id = workflow.id
  name : other.name = workflow.name
  nodes : other.nodes = workflow.nodes
  edges : other.resolvedEdges.map (ResolvedEdge.rename .unlabelled) =
    workflow.resolvedEdges.map (ResolvedEdge.rename .unlabelled)

variable {workflow other : Workflow}

theorem Rewired.sameWiring (rewired : workflow.Rewired other) : workflow.SameWiring other := by
  cases rewired with
  | redrawn alike =>
      refine ⟨rfl, rfl, rfl, ?_⟩
      rw [unlabelled_resolvedEdges, unlabelled_resolvedEdges, List.map_append, List.map_append,
        map_unlabelled_eq alike]
  | moved =>
      refine ⟨rfl, rfl, rfl, ?_⟩
      rw [unlabelled_resolvedEdges, unlabelled_resolvedEdges, List.map_nil, List.append_nil]

theorem sameWiring_of_rewired (rewired : Relation.ReflTransGen Rewired workflow other) :
    workflow.SameWiring other := by
  induction rewired with
  | refl => exact ⟨rfl, rfl, rfl, rfl⟩
  | tail _ step ih =>
      have last := step.sameWiring
      exact ⟨last.id.trans ih.id, last.name.trans ih.name, last.nodes.trans ih.nodes,
        last.edges.trans ih.edges⟩

theorem SameWiring.compile_eq (same : workflow.SameWiring other) :
    (other.compile.map (CompiledWorkflow.rename .unlabelled)).mapError
        (CompileError.rename .unlabelled) =
      (workflow.compile.map (CompiledWorkflow.rename .unlabelled)).mapError
        (CompileError.rename .unlabelled) := by
  have injective : Function.Injective Renaming.unlabelled.node := Function.injective_id
  rw [compile_eq_compileAlong, compile_eq_compileAlong, ← compileAlong_rename injective,
    ← compileAlong_rename injective, same.edges]
  simp only [compileAlong, assembleAlong, nodeIds, renameNodes, same.id, same.name, same.nodes]

end Workflow

variable {σ τ β : Type}

/-- Two plans that no run can tell apart. -/
structure CompiledWorkflow.SameRuns (compiled other : CompiledWorkflow) : Prop where
  order : other.plan.order = compiled.plan.order
  node? : ∀ id, other.node? id = compiled.node? id
  decided : ∀ id context branchSkipped,
    decideNode (other.plan.inputsOf id) context branchSkipped =
      decideNode (compiled.plan.inputsOf id) context branchSkipped

theorem decideNode_unlabelled (mappings : List InputMapping) (context : Context)
    (branchSkipped : List NodeId) :
    decideNode (mappings.map (InputMapping.rename .unlabelled)) context branchSkipped =
      decideNode mappings context branchSkipped := by
  have recorded : context.Renamed .unlabelled context :=
    ⟨rfl, rfl, rfl, fun _ => rfl, (List.map_id _).symm⟩
  have kept (decision : Decision) : decision.rename .unlabelled = decision := by
    cases decision with
    | skip triggers => exact congrArg Decision.skip (List.map_id _)
    | lack source => rfl
    | run inputs => rfl
  have decided := decideNode_rename recorded Function.injective_id branchSkipped mappings
  rw [kept] at decided
  rw [← decided]
  exact congrArg (decideNode _ context) (List.map_id _).symm

section Unlabelled

variable {workflow otherWorkflow : Workflow} {compiled other : CompiledWorkflow}

theorem inputsOf_unlabelled (compiles : workflow.compile = .ok compiled) (id : NodeId) :
    (compiled.rename .unlabelled).plan.inputsOf id =
      (compiled.plan.inputsOf id).map (InputMapping.rename .unlabelled) :=
  Workflow.inputsOf_rename Function.injective_id compiles id

theorem node?_unlabelled (compiles : workflow.compile = .ok compiled) (id : NodeId) :
    (compiled.rename .unlabelled).node? id = compiled.node? id := by
  have found : (compiled.rename .unlabelled).node? id =
      (compiled.node? id).map (PlannedNode.rename .unlabelled) :=
    Workflow.node?_rename Function.injective_id compiles id
  rw [found]
  exact Option.map_id'

theorem sameRuns_of_unlabelled (compiles : workflow.compile = .ok compiled)
    (otherCompiles : otherWorkflow.compile = .ok other)
    (same : other.rename .unlabelled = compiled.rename .unlabelled) :
    compiled.SameRuns other where
  order := by
    have orders := congrArg (fun compiled => compiled.plan.order) same
    simpa [CompiledWorkflow.rename, Plan.rename, Renaming.unlabelled] using orders
  node? id := by
    rw [← node?_unlabelled otherCompiles, same, node?_unlabelled compiles]
  decided id context branchSkipped := by
    rw [← decideNode_unlabelled (other.plan.inputsOf id), ← inputsOf_unlabelled otherCompiles,
      same, inputsOf_unlabelled compiles, decideNode_unlabelled]

end Unlabelled

namespace RunSetup

variable (setup : RunSetup σ τ) {compiled other : CompiledWorkflow}
  (same : compiled.SameRuns other)

include same

theorem visit_congr (id : NodeId) (node : PlannedNode) (state : RunState σ τ) :
    setup.visit (other.plan.inputsOf id) node state =
      setup.visit (compiled.plan.inputsOf id) node state := by
  rw [visit, visit, same.decided]

theorem walk_congr (rest : List NodeId) (state : RunState σ τ) :
    setup.walk other rest state = setup.walk compiled rest state := by
  induction rest generalizing state with
  | nil => rfl
  | cons id rest ih =>
      rw [walk, walk, same.node? id]
      cases compiled.node? id with
      | none => exact ih state
      | some node => simp only [setup.visit_congr same, ih]

theorem trace_congr {note otherNote : PlannedNode → RunState σ τ → List β}
    (notes : ∀ node state, otherNote node state = note node state) (rest : List NodeId)
    (state : RunState σ τ) :
    setup.trace other otherNote rest state = setup.trace compiled note rest state := by
  induction rest generalizing state with
  | nil => rfl
  | cons id rest ih =>
      rw [trace, trace, same.node? id]
      cases compiled.node? id with
      | none => exact ih state
      | some node => simp only [setup.visit_congr same, ih, notes]

end RunSetup

def RunRequest.withWorkflow (request : RunRequest) (workflow : Workflow) : RunRequest :=
  { request with workflow }

namespace Orchestrator

variable (orchestrator : Orchestrator σ τ) {request : RunRequest} {workflow : Workflow}
  {compiled other : CompiledWorkflow} (world : σ) (observer : τ)

section SameRuns

variable (compiles : request.workflow.compile = .ok compiled)
  (otherCompiles : workflow.compile = .ok other) (same : compiled.SameRuns other)

include same

theorem nodeCount_congr : other.nodeCount = compiled.nodeCount :=
  congrArg List.length same.order

theorem start_congr :
    orchestrator.start (request.withWorkflow workflow) other world observer =
      orchestrator.start request compiled world observer := by
  rw [start, start, nodeCount_congr same]
  rfl

theorem reports_congr :
    orchestrator.reports (request.withWorkflow workflow) other world observer =
      orchestrator.reports request compiled world observer := by
  rw [reports, reports, orchestrator.start_congr world observer same, same.order]
  refine RunSetup.trace_congr _ same (fun node state => ?_) _ _
  rw [RunState.decision, same.decided]
  rfl

theorem answeredCalls_congr :
    orchestrator.answeredCalls (request.withWorkflow workflow) other world observer =
      orchestrator.answeredCalls request compiled world observer := by
  rw [answeredCalls, answeredCalls, orchestrator.start_congr world observer same, same.order]
  refine RunSetup.trace_congr _ same (fun node state => ?_) _ _
  rw [RunState.decision, same.decided]
  rfl

include compiles otherCompiles

theorem orchestrate_congr :
    orchestrator.orchestrate (request.withWorkflow workflow) world observer =
      orchestrator.orchestrate request world observer := by
  have final : orchestrator.final (request.withWorkflow workflow) other world observer =
      orchestrator.final request compiled world observer := by
    rw [final, final, orchestrator.start_congr world observer same, same.order]
    exact RunSetup.walk_congr _ same _ _
  have again : (request.withWorkflow workflow).workflow.compile = .ok other := otherCompiles
  rw [orchestrate_compiled compiles, orchestrate_compiled again, final, nodeCount_congr same]
  rfl

theorem events_congr :
    orchestrator.events (request.withWorkflow workflow) world observer =
      orchestrator.events request world observer := by
  have again : (request.withWorkflow workflow).workflow.compile = .ok other := otherCompiles
  rw [events_compiled compiles, events_compiled again,
    orchestrator.reports_congr world observer same,
    orchestrator.orchestrate_congr world observer compiles otherCompiles same, nodeCount_congr same]
  rfl

end SameRuns

/-- However the edges of a workflow are written, the same is compiled or refused but for the ids of
edges. A run calls the same processors on the same inputs, comes to the same response and reports
the same events; only the refusal of an edge quotes its id. -/
theorem orchestrate_rewired (request : RunRequest) {workflow : Workflow}
    (rewired : Relation.ReflTransGen Workflow.Rewired request.workflow workflow) :
    (workflow.compile.map (CompiledWorkflow.rename .unlabelled)).mapError
          (CompileError.rename .unlabelled) =
        (request.workflow.compile.map (CompiledWorkflow.rename .unlabelled)).mapError
          (CompileError.rename .unlabelled) ∧
      ∀ {σ τ : Type} (orchestrator : Orchestrator σ τ) (world : σ) (observer : τ),
        let run := orchestrator.orchestrate request world observer
        let again := orchestrator.orchestrate (request.withWorkflow workflow) world observer
        (∀ compiled, request.workflow.compile = .ok compiled →
          ∃ other, workflow.compile = .ok other ∧
            other.rename .unlabelled = compiled.rename .unlabelled ∧ again = run ∧
            orchestrator.answeredCalls (request.withWorkflow workflow) other world observer =
              orchestrator.answeredCalls request compiled world observer) ∧
        (∀ error, request.workflow.compile = .error error →
          ∃ other, workflow.compile = .error other ∧
            other.rename .unlabelled = error.rename .unlabelled ∧
            again = ({ run.1 with fault := some (.notCompiled other) }, run.2)) ∧
        orchestrator.events (request.withWorkflow workflow) world observer =
          orchestrator.events request world observer := by
  have sameWiring := Workflow.sameWiring_of_rewired rewired
  have compiles := sameWiring.compile_eq
  refine ⟨compiles, fun orchestrator world observer => ?_⟩
  cases outcome : request.workflow.compile with
  | ok compiled =>
      rw [outcome] at compiles
      cases otherOutcome : workflow.compile with
      | error error =>
          rw [otherOutcome] at compiles
          cases compiles
      | ok other =>
          rw [otherOutcome] at compiles
          have unlabelled : other.rename .unlabelled = compiled.rename .unlabelled :=
            Except.ok.inj compiles
          have same := sameRuns_of_unlabelled outcome otherOutcome unlabelled
          refine ⟨?_, nofun, orchestrator.events_congr world observer outcome otherOutcome same⟩
          rintro _ ⟨⟩
          exact ⟨other, rfl, unlabelled,
            orchestrator.orchestrate_congr world observer outcome otherOutcome same,
            orchestrator.answeredCalls_congr world observer same⟩
  | error error =>
      rw [outcome] at compiles
      cases otherOutcome : workflow.compile with
      | ok other =>
          rw [otherOutcome] at compiles
          cases compiles
      | error other =>
          rw [otherOutcome] at compiles
          have unlabelled : other.rename .unlabelled = error.rename .unlabelled :=
            Except.error.inj compiles
          have again : (request.withWorkflow workflow).workflow.compile = .error other :=
            otherOutcome
          have count : (request.withWorkflow workflow).workflow.nodes.length =
            request.workflow.nodes.length := congrArg List.length sameWiring.nodes
          refine ⟨nofun, ?_, ?_⟩
          · rintro _ ⟨⟩
            refine ⟨other, rfl, unlabelled, ?_⟩
            simp only [orchestrate, outcome, again, count]
            rfl
          · simp only [events, outcome, again, count]
            rfl

/-- The edges of the forked workflow under ids that clash, with its connections among them. -/
def rewiredForked : Workflow :=
  { forked with
    edges := [⟨"connection-0", "gate", "yes", some "gate-output-true", some "yes-input-trigger"⟩,
      ⟨"connection-0", "gate", "no", some "gate-output-false", some "no-input-trigger"⟩,
      ⟨"edge-1", "gate", "lost", some "", none⟩, ⟨"edge-1", "lost", "late", none, some ""⟩]
    connections := [] }

theorem orchestrate_rewired_forked :
    Relation.ReflTransGen Workflow.Rewired forked rewiredForked ∧
      (∃ other, rewiredForked.compile = .ok other) ∧
      gateways.orchestrate (forkedRequest.withWorkflow rewiredForked) () () =
        gateways.orchestrate forkedRequest () () := by
  have rewired : Relation.ReflTransGen Workflow.Rewired forked rewiredForked := by
    refine .tail (.tail .refl .moved) (.redrawn ?_)
    exact .cons ⟨rfl, rfl, rfl, rfl⟩ (.cons ⟨rfl, rfl, rfl, rfl⟩ (.cons ⟨rfl, rfl, rfl, rfl⟩
      (.cons ⟨rfl, rfl, rfl, rfl⟩ .nil)))
  have compiles : forkedRequest.workflow.compile = .ok (forked.assemble forkedOrder) := by
    decide +kernel
  obtain ⟨accepted, _⟩ := (orchestrate_rewired forkedRequest rewired).2 gateways () ()
  obtain ⟨other, otherCompiles, _, same, _⟩ := accepted _ compiles
  exact ⟨rewired, ⟨other, otherCompiles⟩, same⟩

end Orchestrator

end Flowline
