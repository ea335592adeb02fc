import Flowline.Proofs.Lists
import Flowline.Proofs.Plan.Routing
import Mathlib.Data.List.Find

/-!
Compiling under other names. Ids only tell nodes apart and edge ids do not even tell edges apart, so
that whatever is compiled keeps its shape when nodes and edges are renamed, as long as no two nodes
come to share an id.
-/

namespace Flowline

structure Renaming where
  node : NodeId → NodeId
  edge : EdgeId → EdgeId

/-- Other names for nodes alone. -/
def Renaming.ofNodes (name : NodeId → NodeId) : Renaming where
  node := name
  edge := id

section Definitions

variable (names : Renaming)

def Workflow.Node.rename (node : Workflow.Node) : Workflow.Node :=
  { node with id := names.node node.id }

def ResolvedEdge.rename (edge : ResolvedEdge) : ResolvedEdge :=
  { edge with
    id := names.edge edge.id
    source := names.node edge.source
    target := names.node edge.target }

def InputMapping.rename (mapping : InputMapping) : InputMapping :=
  { mapping with
    source := names.node mapping.source
    edge := names.edge mapping.edge }

def OutputMapping.rename (mapping : OutputMapping) : OutputMapping :=
  { mapping with
    target := names.node mapping.target
    edge := names.edge mapping.edge }

def PlanSummary.rename (summary : PlanSummary) : PlanSummary :=
  { summary with
    roots := summary.roots.map names.node
    leaves := summary.leaves.map names.node }

def Plan.rename (plan : Plan) : Plan where
  order := plan.order.map names.node
  inputs := Entries.rename names.node (List.map (InputMapping.rename names)) plan.inputs
  outputs := Entries.rename names.node (List.map (OutputMapping.rename names)) plan.outputs
  summary := plan.summary.rename names

def PlannedNode.rename (node : PlannedNode) : PlannedNode :=
  { node with node := names.node node.node }

def DependencyGraph.rename (graph : DependencyGraph) : DependencyGraph where
  dependencies := Entries.rename names.node (List.map names.node) graph.dependencies
  dependents := Entries.rename names.node (List.map names.node) graph.dependents

def CompiledWorkflow.rename (compiled : CompiledWorkflow) : CompiledWorkflow :=
  { compiled with
    plan := compiled.plan.rename names
    nodes := Entries.rename names.node (PlannedNode.rename names) compiled.nodes
    graph := compiled.graph.rename names }

def CompileError.rename : CompileError → CompileError
  | .cycle nodes => .cycle (nodes.map names.node)
  | .unknownNode edge node => .unknownNode (names.edge edge) (names.node node)
  | .duplicateNode node => .duplicateNode (names.node node)
  | .missingType node => .missingType (names.node node)

end Definitions

theorem distinct_map {α β : Type} [DecidableEq α] [DecidableEq β] {f : α → β}
    (injective : Function.Injective f) (items : List α) :
    distinct (items.map f) = (distinct items).map f := by
  have folded (seen : List α) :
      (items.map f).foldl (fun seen item => if seen.contains item then seen else seen ++ [item])
          (seen.map f) =
        (items.foldl (fun seen item => if seen.contains item then seen else seen ++ [item])
          seen).map f := by
    induction items generalizing seen with
    | nil => rfl
    | cons first rest ih =>
        rw [List.map_cons, List.foldl_cons, List.foldl_cons, ← ih, contains_map injective]
        split
        · rfl
        · rw [List.map_append, List.map_singleton]
  exact folded []

namespace Frontier

variable {count : Nat} {dependents other : Nat → List Nat} {frontier : Frontier}

theorem Reached.drain_congr
    (bounded : ∀ node < count, ∀ later ∈ dependents node, later < count)
    (unique : ∀ node < count, (dependents node).Nodup)
    (same : ∀ node < count, other node = dependents node) (fuel : Nat)
    (reached : Reached count dependents frontier) :
    Frontier.drain other fuel frontier = Frontier.drain dependents fuel frontier := by
  induction fuel generalizing frontier with
  | zero => rfl
  | succ fuel ih =>
      unfold Frontier.drain
      split
      · rfl
      · rename_i node rest ready
        -- Only what is ready is placed, and that is among the first `count` nodes.
        have inside : node < count := ((reached.balanced.ready node).mp (by simp [ready])).1
        have placed : Frontier.place other frontier node rest =
            Frontier.place dependents frontier node rest := by
          rw [Frontier.place, Frontier.place, same node inside]
        rw [placed]
        exact ih (reached.place bounded unique ready)

/-- A run asks for the dependents of its own nodes only. -/
theorem Counted.run_congr {waiting : List Nat} (counted : Counted waiting dependents)
    (same : ∀ node < waiting.length, other node = dependents node) :
    Frontier.run waiting other = Frontier.run waiting dependents :=
  counted.start.drain_congr counted.bounded counted.nodup same waiting.length

end Frontier

namespace Workflow

open ExecutionOrder (graph frontier)

def assembleAlong (workflow : Workflow) (edges : List ResolvedEdge) (order : List NodeId) :
    CompiledWorkflow where
  workflowId := workflow.id
  workflowName := workflow.name
  plan := {
    order
    inputs := inputMappings edges
    outputs := outputMappings edges
    summary := summary workflow.nodeIds edges (graph workflow.nodeIds edges) }
  nodes := Entries.ofList (workflow.nodes.mapIdx fun index node =>
    (node.id, plannedNode (inputMappings edges) index node))
  graph := graph workflow.nodeIds edges

/-- What the workflow is compiled to if its edges and connections resolve to the given edges. -/
def compileAlong (workflow : Workflow) (edges : List ResolvedEdge) :
    Except CompileError CompiledWorkflow :=
  (checkNodes [] workflow.nodes).bind fun _ =>
    (checkEdges workflow.nodeIds edges).bind fun _ =>
      (executionOrder workflow.nodeIds (graph workflow.nodeIds edges)).bind fun order =>
        .ok (workflow.assembleAlong edges order)

theorem compile_eq_compileAlong (workflow : Workflow) :
    workflow.compile = workflow.compileAlong workflow.resolvedEdges := rfl

def renameNodes (names : Renaming) (workflow : Workflow) : Workflow :=
  { workflow with nodes := workflow.nodes.map (Node.rename names) }

theorem nodeIds_renameNodes (names : Renaming) (workflow : Workflow) :
    (workflow.renameNodes names).nodeIds = workflow.nodeIds.map names.node := by
  rw [nodeIds, nodeIds, renameNodes, List.map_map, List.map_map]
  rfl

section Injective

variable {names : Renaming} (injective : Function.Injective names.node)

include injective

theorem checkNodes_rename (seen : List NodeId) (nodes : List Node) :
    checkNodes (seen.map names.node) (nodes.map (Node.rename names)) =
      (checkNodes seen nodes).mapError (CompileError.rename names) := by
  induction nodes generalizing seen with
  | nil => rfl
  | cons node rest ih =>
      have later := ih (node.id :: seen)
      rw [List.map_cons] at later ⊢
      rw [checkNodes_cons, checkNodes_cons]
      simp only [Node.rename, contains_map injective] at later ⊢
      split
      · rfl
      · split
        · rfl
        · exact later

theorem checkEdges_rename (declared : List NodeId) (edges : List ResolvedEdge) :
    checkEdges (declared.map names.node) (edges.map (ResolvedEdge.rename names)) =
      (checkEdges declared edges).mapError (CompileError.rename names) := by
  induction edges with
  | nil => rfl
  | cons edge rest ih =>
      have unknown : ((edge.rename names).endpoints.find? fun node =>
            !(declared.map names.node).contains node) =
          (edge.endpoints.find? fun node => !declared.contains node).map names.node := by
        change (edge.endpoints.map names.node).find? _ = _
        rw [List.find?_map]
        refine congrArg (Option.map names.node) (List.find?_congr fun node _ => ?_)
        exact congrArg not (contains_map injective declared node)
      rw [List.map_cons, checkEdges, checkEdges, unknown]
      cases edge.endpoints.find? fun node => !declared.contains node with
      | none => exact ih
      | some node => rfl

theorem graph_rename (declared : List NodeId) (edges : List ResolvedEdge) :
    graph (declared.map names.node) (edges.map (ResolvedEdge.rename names)) =
      (graph declared edges).rename names := by
  have pairs : dependencyPairs (edges.map (ResolvedEdge.rename names)) =
      (dependencyPairs edges).map (Prod.map names.node names.node) := by
    rw [dependencyPairs, dependencyPairs, ← distinct_map (injective.prodMap injective),
      List.map_map, List.map_map]
    rfl
  have sources (node : NodeId) : DependencyGraph.sourcesOf
        ((dependencyPairs edges).map (Prod.map names.node names.node)) (names.node node) =
      (DependencyGraph.sourcesOf (dependencyPairs edges) node).map names.node := by
    simp only [DependencyGraph.sourcesOf, List.filter_map, List.map_map, Function.comp_def,
      Prod.map, injective.beq_eq]
  have targets (node : NodeId) : DependencyGraph.targetsOf
        ((dependencyPairs edges).map (Prod.map names.node names.node)) (names.node node) =
      (DependencyGraph.targetsOf (dependencyPairs edges) node).map names.node := by
    simp only [DependencyGraph.targetsOf, List.filter_map, List.map_map, Function.comp_def,
      Prod.map, injective.beq_eq]
  simp only [graph, DependencyGraph.ofPairs, DependencyGraph.rename,
    Entries.rename_ofList _ injective, List.map_map, Function.comp_def, pairs, sources, targets]

theorem dependenciesOf_rename (declared : List NodeId) (edges : List ResolvedEdge)
    (node : NodeId) :
    ((graph declared edges).rename names).dependenciesOf (names.node node) =
      ((graph declared edges).dependenciesOf node).map names.node :=
  Entries.getD_get?_rename names.node injective (Entries.sorted_ofList _) node

theorem dependentsOf_rename (declared : List NodeId) (edges : List ResolvedEdge)
    (node : NodeId) :
    ((graph declared edges).rename names).dependentsOf (names.node node) =
      ((graph declared edges).dependentsOf node).map names.node :=
  Entries.getD_get?_rename names.node injective (Entries.sorted_ofList _) node

omit injective in
theorem getD_map_node {declared : List NodeId} {index : Nat} (inside : index < declared.length) :
    (declared.map names.node).getD index "" = names.node (declared.getD index "") := by
  simp [inside]

theorem dependentIndices_rename {declared : List NodeId} (edges : List ResolvedEdge) {index : Nat}
    (inside : index < declared.length) :
    dependentIndices (declared.map names.node) ((graph declared edges).rename names) index =
      dependentIndices declared (graph declared edges) index := by
  rw [dependentIndices, dependentIndices, getD_map_node inside, dependentsOf_rename injective,
    List.map_map]
  refine List.map_congr_left fun node _ => ?_
  simp only [Function.comp_def, List.idxOf, List.findIdx_map, injective.beq_eq]

section Order

variable {declared : List NodeId} {edges : List ResolvedEdge} (unique : declared.Nodup)
  (closed : Closed declared edges)

include unique closed

/-- Nodes are placed by the place of their declaration, which no renaming changes. -/
theorem frontier_rename :
    Frontier.run ((declared.map names.node).map fun node =>
          (((graph declared edges).rename names).dependenciesOf node).length)
        (dependentIndices (declared.map names.node) ((graph declared edges).rename names)) =
      frontier declared edges := by
  have waiting : (declared.map names.node).map (fun node =>
        (((graph declared edges).rename names).dependenciesOf node).length) =
      declared.map fun node => ((graph declared edges).dependenciesOf node).length := by
    simp only [List.map_map, Function.comp_def, dependenciesOf_rename injective, List.length_map]
  rw [waiting]
  refine (ExecutionOrder.counted unique closed).run_congr fun node inside => ?_
  exact dependentIndices_rename injective edges (by simpa using inside)

theorem executionOrder_rename :
    executionOrder (declared.map names.node) ((graph declared edges).rename names) =
      ((executionOrder declared (graph declared edges)).map (List.map names.node)).mapError
        (CompileError.rename names) := by
  have placed : (frontier declared edges).placed.map
        (fun index => (declared.map names.node).getD index "") =
      (ExecutionOrder.placedNodes declared edges).map names.node := by
    have inside := (ExecutionOrder.frontier_reached unique closed).1.balanced.placed
    rw [ExecutionOrder.placedNodes, List.map_map]
    exact List.map_congr_left fun index member => getD_map_node (inside index member).1
  have stuck : (((declared.map names.node).zip (frontier declared edges).waiting).filter
        fun entry => decide (0 < entry.2)).map Prod.fst =
      (ExecutionOrder.stuckNodes declared edges).map names.node := by
    rw [ExecutionOrder.stuckNodes, List.zip_map_left, List.filter_map, List.map_map, List.map_map]
    rfl
  rw [ExecutionOrder.executionOrder_eq]
  simp only [executionOrder, frontier_rename injective unique closed, List.length_map, placed,
    stuck]
  split <;> rfl

end Order

theorem inputMappings_rename (edges : List ResolvedEdge) :
    inputMappings (edges.map (ResolvedEdge.rename names)) =
      Entries.rename names.node (List.map (InputMapping.rename names)) (inputMappings edges) := by
  rw [inputMappings, List.foldl_map]
  exact (Entries.rename_foldl_push (InputMapping.rename names) injective ResolvedEdge.target
    ResolvedEdge.toInput edges List.Pairwise.nil).symm

theorem outputMappings_rename (edges : List ResolvedEdge) :
    outputMappings (edges.map (ResolvedEdge.rename names)) =
      Entries.rename names.node (List.map (OutputMapping.rename names)) (outputMappings edges) := by
  rw [outputMappings, List.foldl_map]
  exact (Entries.rename_foldl_push (OutputMapping.rename names) injective ResolvedEdge.source
    ResolvedEdge.toOutput edges List.Pairwise.nil).symm

theorem summary_rename (declared : List NodeId) (edges : List ResolvedEdge) :
    summary (declared.map names.node) (edges.map (ResolvedEdge.rename names))
        ((graph declared edges).rename names) =
      (summary declared edges (graph declared edges)).rename names := by
  simp only [summary, PlanSummary.rename, List.length_map, List.filter_map, Function.comp_def,
    dependenciesOf_rename injective, dependentsOf_rename injective, List.isEmpty_map]
  rfl

theorem plannedNode_rename (edges : List ResolvedEdge) (index : Nat) (node : Node) :
    plannedNode (inputMappings (edges.map (ResolvedEdge.rename names))) index
        (node.rename names) =
      (plannedNode (inputMappings edges) index node).rename names := by
  have mappings := Entries.getD_get?_rename (InputMapping.rename names) injective
    (Entries.sorted_foldl_push ResolvedEdge.target ResolvedEdge.toInput edges List.Pairwise.nil)
    node.id
  have gated : ((Entries.get? (inputMappings (edges.map (ResolvedEdge.rename names)))
        (names.node node.id)).getD []).any InputMapping.isTrigger =
      ((Entries.get? (inputMappings edges) node.id).getD []).any InputMapping.isTrigger := by
    rw [inputMappings_rename injective]
    refine (congrArg (fun mappings => List.any mappings InputMapping.isTrigger) mappings).trans ?_
    rw [List.any_map]
    rfl
  simp only [plannedNode, PlannedNode.rename, Node.rename, gated]

theorem assembleAlong_rename (workflow : Workflow) (edges : List ResolvedEdge)
    (order : List NodeId) :
    (workflow.renameNodes names).assembleAlong (edges.map (ResolvedEdge.rename names))
        (order.map names.node) =
      (workflow.assembleAlong edges order).rename names := by
  have nodes : ((workflow.renameNodes names).nodes.mapIdx fun index node =>
        (node.id,
          plannedNode (inputMappings (edges.map (ResolvedEdge.rename names))) index node)) =
      (workflow.nodes.mapIdx fun index node =>
        (node.id, plannedNode (inputMappings edges) index node)).map fun entry =>
          (names.node entry.1, entry.2.rename names) := by
    simp only [renameNodes, mapIdx_map, map_mapIdx, plannedNode_rename injective]
    rfl
  unfold assembleAlong
  rw [nodes]
  simp only [CompiledWorkflow.rename, Plan.rename, nodeIds_renameNodes, graph_rename injective,
    summary_rename injective, inputMappings_rename injective, outputMappings_rename injective,
    Entries.rename_ofList _ injective]
  rfl

/-- Compiling and renaming may be done in either order. -/
theorem compileAlong_rename (workflow : Workflow) (edges : List ResolvedEdge) :
    (workflow.renameNodes names).compileAlong (edges.map (ResolvedEdge.rename names)) =
      ((workflow.compileAlong edges).map (CompiledWorkflow.rename names)).mapError
        (CompileError.rename names) := by
  have nodes : checkNodes [] (workflow.renameNodes names).nodes =
      (checkNodes [] workflow.nodes).mapError (CompileError.rename names) :=
    checkNodes_rename injective [] workflow.nodes
  unfold compileAlong
  rw [nodes, nodeIds_renameNodes, checkEdges_rename injective, graph_rename injective]
  cases sound : checkNodes [] workflow.nodes with
  | error error => rfl
  | ok _ =>
      cases closed : checkEdges workflow.nodeIds edges with
      | error error => rfl
      | ok _ =>
          have unique : workflow.nodeIds.Nodup := (checkNodes_eq_ok_iff.mp sound).unique
          have order := executionOrder_rename injective unique (checkEdges_eq_ok_iff.mp closed)
          simp only [Except.mapError, Except.bind]
          rw [order]
          cases executionOrder workflow.nodeIds (graph workflow.nodeIds edges) with
          | error error => rfl
          | ok order =>
              exact congrArg Except.ok (assembleAlong_rename injective workflow edges order)

section Compiled

variable {workflow : Workflow} {compiled : CompiledWorkflow}

theorem inputsOf_rename (compiles : workflow.compile = .ok compiled) (id : NodeId) :
    (compiled.rename names).plan.inputsOf (names.node id) =
      (compiled.plan.inputsOf id).map (InputMapping.rename names) := by
  obtain ⟨_, _, order, _, rfl⟩ := compile_eq_ok_iff.mp compiles
  exact Entries.getD_get?_rename (InputMapping.rename names) injective
    (Entries.sorted_foldl_push _ _ _ List.Pairwise.nil) id

theorem node?_rename (compiles : workflow.compile = .ok compiled) (id : NodeId) :
    (compiled.rename names).node? (names.node id) =
      (compiled.node? id).map (PlannedNode.rename names) := by
  obtain ⟨_, _, order, _, rfl⟩ := compile_eq_ok_iff.mp compiles
  exact Entries.get?_rename (PlannedNode.rename names) injective (Entries.sorted_ofList _) id

end Compiled

end Injective

/-- Neither handle has the marker of its side more than once. -/
structure Edge.MarkedOnce (edge : Edge) : Prop where
  source : ∀ handle ∈ edge.sourceHandle,
    Handle.occurrences (Handle.Side.marker .output) handle.toList ≤ 1
  target : ∀ handle ∈ edge.targetHandle,
    Handle.occurrences (Handle.Side.marker .input) handle.toList ≤ 1

section Ids

variable (name : NodeId → NodeId)

def Edge.renameEnds (edge : Edge) : Edge :=
  { edge with source := name edge.source, target := name edge.target }

def Connection.renameEnds (connection : Connection) : Connection where
  source := name connection.source
  target := name connection.target

/-- The workflow with its nodes under other ids; handles stay as they were written. -/
def renameIds (workflow : Workflow) : Workflow :=
  { workflow with
    nodes := workflow.nodes.map (Node.rename (.ofNodes name))
    edges := workflow.edges.map (Edge.renameEnds name)
    connections := workflow.connections.map (Connection.renameEnds name) }

theorem port?_eq_of_markedOnce {side : Handle.Side} {handle : Option String}
    (once : ∀ text ∈ handle, Handle.occurrences side.marker text.toList ≤ 1)
    (node other : NodeId) :
    handle.bind (Handle.port? side node) = handle.bind (Handle.port? side other) := by
  cases handle with
  | none => rfl
  | some text => exact Handle.port?_eq_of_occurrences (once text rfl) node other

theorem Edge.resolve_renameEnds {edge : Edge} (once : edge.MarkedOnce) (index : Nat) :
    (edge.renameEnds name).resolve index = (edge.resolve index).rename (.ofNodes name) := by
  have source := port?_eq_of_markedOnce once.source (name edge.source) edge.source
  have target := port?_eq_of_markedOnce once.target (name edge.target) edge.target
  simp only [Edge.resolve, Edge.renameEnds, source, target]
  rfl

theorem resolvedEdges_renameIds {workflow : Workflow}
    (once : ∀ edge ∈ workflow.edges, edge.MarkedOnce) :
    (workflow.renameIds name).resolvedEdges =
      workflow.resolvedEdges.map (ResolvedEdge.rename (.ofNodes name)) := by
  have drawn : (workflow.edges.mapIdx fun index edge => (edge.renameEnds name).resolve index) =
      workflow.edges.mapIdx fun index edge => (edge.resolve index).rename (.ofNodes name) :=
    List.mapIdx_eq_mapIdx_iff.mpr fun index inside =>
      Edge.resolve_renameEnds name (once _ (List.getElem_mem inside)) index
  simp only [resolvedEdges, renameIds, List.map_append, mapIdx_map, map_mapIdx, drawn]
  rfl

theorem compile_renameIds {name : NodeId → NodeId} (injective : Function.Injective name)
    {workflow : Workflow} (once : ∀ edge ∈ workflow.edges, edge.MarkedOnce) :
    (workflow.renameIds name).compile =
      (workflow.compile.map (CompiledWorkflow.rename (.ofNodes name))).mapError
        (CompileError.rename (.ofNodes name)) := by
  rw [compile_eq_compileAlong, resolvedEdges_renameIds name once, compile_eq_compileAlong]
  exact compileAlong_rename injective workflow workflow.resolvedEdges

end Ids

end Workflow

end Flowline
