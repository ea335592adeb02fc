import Flowline.Proofs.Lists
import Flowline.Proofs.Plan.Routing
import Flowline.Trigger

/-!
What a plan keeps of the workflow that it is compiled from. Grouped by target or by source, the
edges are all there, once and in the order of their declaration, and each grouping is the other one
seen from the far end. The dependency graph has each joined pair once, and every node is on the list
with the place of its declaration.
-/

namespace Flowline

/-- The mapping of an edge into `target` as the source of the edge has it. -/
def InputMapping.reversed (target : NodeId) (mapping : InputMapping) : OutputMapping :=
  ⟨target, mapping.sourceOutput, mapping.targetInput, mapping.kind, mapping.edge⟩

/-- Both groupings of the plan hold just these edges. -/
structure Plan.Represents (plan : Plan) (edges : List ResolvedEdge) : Prop where
  inputs : ∀ target, plan.inputsOf target =
    (edges.filter fun edge => edge.target == target).map fun edge =>
      ⟨edge.kind, edge.source, edge.sourcePort, edge.targetPort.getD defaultPort, edge.id⟩
  outputs : ∀ source, plan.outputsOf source =
    (edges.filter fun edge => edge.source == source).map fun edge =>
      ⟨edge.target, edge.sourcePort, edge.targetPort.getD defaultPort, edge.kind, edge.id⟩
  transposed : ∀ source target,
    (plan.inputsFrom target source).map (InputMapping.reversed target) =
      (plan.outputsOf source).filter fun mapping => mapping.target == target
  edgeCount : plan.summary.edgeCount = edges.length
  inputCount : (Entries.values plan.inputs).flatten.length = plan.summary.edgeCount
  outputCount : (Entries.values plan.outputs).flatten.length = plan.summary.edgeCount
  triggerInputCount : (Entries.values plan.inputs).flatten.countP InputMapping.isTrigger =
    plan.summary.triggerEdgeCount
  triggerOutputCount :
    (Entries.values plan.outputs).flatten.countP (fun mapping => mapping.kind == .trigger) =
      plan.summary.triggerEdgeCount

/-- The graph joins what the edges join, each pair once and at both of its ends. -/
structure DependencyGraph.Collapses (graph : DependencyGraph) (edges : List ResolvedEdge) :
    Prop where
  dependencies : ∀ source target,
    source ∈ graph.dependenciesOf target ↔ Joined edges source target
  dependents : ∀ source target,
    target ∈ graph.dependentsOf source ↔ Joined edges source target
  dependenciesOnce : ∀ target, (graph.dependenciesOf target).Nodup
  dependentsOnce : ∀ source, (graph.dependentsOf source).Nodup

/-- What the plan says of the node that is declared at the place and fed by the mappings. -/
structure PlannedNode.Describes (planned : PlannedNode) (declared : Workflow.Node) (place : Nat)
    (mappings : List InputMapping) : Prop where
  node : planned.node = declared.id
  type : planned.type = declared.type
  config : planned.config = declared.config
  label : planned.label = declared.label
  index : planned.index = place
  gated : ∀ context, planned.gated = true ↔ evaluateTriggers mappings context ≠ .ungated

theorem evaluateTriggers_ne_ungated_iff {mappings : List InputMapping} {context : Context} :
    evaluateTriggers mappings context ≠ .ungated ↔ mappings.any InputMapping.isTrigger = true := by
  have gated : mappings.any InputMapping.isTrigger = true ↔
      mappings.filter InputMapping.isTrigger ≠ [] := by
    rw [List.any_eq_true, Ne, List.filter_eq_nil_iff]
    push Not
    rfl
  rw [gated]
  unfold evaluateTriggers
  cases mappings.filter InputMapping.isTrigger with
  | nil => simp
  | cons trigger rest =>
      cases found : (trigger :: rest).find? fun mapping => mapping.isActive context <;>
        simp [found]

namespace Workflow

variable {workflow : Workflow} {compiled : CompiledWorkflow}

theorem outputsOf_compiled (compiles : workflow.compile = .ok compiled) (id : NodeId) :
    compiled.plan.outputsOf id =
      (workflow.resolvedEdges.filter fun edge => edge.source == id).map ResolvedEdge.toOutput := by
  obtain ⟨_, _, order, _, rfl⟩ := compile_eq_ok_iff.mp compiles
  exact Entries.get?_foldl_push ResolvedEdge.source ResolvedEdge.toOutput workflow.resolvedEdges
    [] id

theorem flatten_inputMappings (edges : List ResolvedEdge) :
    (Entries.values (inputMappings edges)).flatten.Perm (edges.map ResolvedEdge.toInput) :=
  Entries.flatten_values_foldl_push _ _ edges List.Pairwise.nil

theorem flatten_outputMappings (edges : List ResolvedEdge) :
    (Entries.values (outputMappings edges)).flatten.Perm (edges.map ResolvedEdge.toOutput) :=
  Entries.flatten_values_foldl_push _ _ edges List.Pairwise.nil

theorem inputsFrom_reversed (compiles : workflow.compile = .ok compiled) (source target : NodeId) :
    (compiled.plan.inputsFrom target source).map (InputMapping.reversed target) =
      (compiled.plan.outputsOf source).filter fun mapping => mapping.target == target := by
  rw [Plan.inputsFrom, inputsOf_compiled compiles, outputsOf_compiled compiles]
  induction workflow.resolvedEdges with
  | nil => rfl
  | cons edge rest ih =>
      by_cases enters : edge.target = target
      · subst enters
        by_cases leaves : edge.source = source
        · subst leaves
          simpa [ResolvedEdge.toInput, ResolvedEdge.toOutput, InputMapping.reversed] using ih
        · simpa [ResolvedEdge.toInput, leaves] using ih
      · by_cases leaves : edge.source = source
        · simpa [ResolvedEdge.toOutput, enters, leaves] using ih
        · simpa [enters, leaves] using ih

theorem represents_compiled (compiles : workflow.compile = .ok compiled) :
    compiled.plan.Represents workflow.resolvedEdges := by
  have inputs := inputsOf_compiled compiles
  have outputs := outputsOf_compiled compiles
  have transposed := inputsFrom_reversed compiles
  obtain ⟨_, _, order, _, rfl⟩ := compile_eq_ok_iff.mp compiles
  have allInputs := flatten_inputMappings workflow.resolvedEdges
  have allOutputs := flatten_outputMappings workflow.resolvedEdges
  refine ⟨inputs, outputs, transposed, rfl, ?inputCount, ?outputCount, ?triggerInputCount,
    ?triggerOutputCount⟩
  case inputCount => exact allInputs.length_eq.trans (List.length_map _)
  case outputCount => exact allOutputs.length_eq.trans (List.length_map _)
  case triggerInputCount =>
    refine (allInputs.countP_eq _).trans ?_
    rw [List.countP_map, List.countP_eq_length_filter]
    rfl
  case triggerOutputCount =>
    refine (allOutputs.countP_eq _).trans ?_
    rw [List.countP_map, List.countP_eq_length_filter]
    rfl

section Graph

open ExecutionOrder (graph)

variable {declared : List NodeId} {edges : List ResolvedEdge}

theorem dependenciesOf_of_undeclared {node : NodeId} (absent : node ∉ declared) :
    (graph declared edges).dependenciesOf node = [] := by
  simp only [graph, DependencyGraph.dependenciesOf, DependencyGraph.ofPairs,
    Entries.get?_ofList_map, if_neg absent, Option.getD_none]

theorem dependentsOf_of_undeclared {node : NodeId} (absent : node ∉ declared) :
    (graph declared edges).dependentsOf node = [] := by
  simp only [graph, DependencyGraph.dependentsOf, DependencyGraph.ofPairs,
    Entries.get?_ofList_map, if_neg absent, Option.getD_none]

theorem collapses_graph (closed : Closed declared edges) :
    (graph declared edges).Collapses edges where
  dependencies source target := by
    by_cases member : target ∈ declared
    · exact ExecutionOrder.mem_dependenciesOf member
    · rw [dependenciesOf_of_undeclared member]
      exact iff_of_false List.not_mem_nil fun joined => member (closed.target joined)
  dependents source target := by
    by_cases member : source ∈ declared
    · exact ExecutionOrder.mem_dependentsOf member
    · rw [dependentsOf_of_undeclared member]
      exact iff_of_false List.not_mem_nil fun joined => member (closed.source joined)
  dependenciesOnce target := by
    by_cases member : target ∈ declared
    · exact ExecutionOrder.nodup_dependenciesOf member
    · rw [dependenciesOf_of_undeclared member]
      exact List.nodup_nil
  dependentsOnce source := by
    by_cases member : source ∈ declared
    · exact ExecutionOrder.nodup_dependentsOf member
    · rw [dependentsOf_of_undeclared member]
      exact List.nodup_nil

variable {dependencies : DependencyGraph}

theorem isEmpty_dependenciesOf (collapses : dependencies.Collapses edges) (node : NodeId) :
    (dependencies.dependenciesOf node).isEmpty = edges.all fun edge => edge.target != node := by
  rw [Bool.eq_iff_iff, List.isEmpty_iff, List.eq_nil_iff_forall_not_mem]
  simp only [collapses.dependencies, Joined, List.all_eq_true, bne_iff_ne]
  constructor
  · intro free edge member enters
    exact free edge.source ⟨edge, member, rfl, enters⟩
  · rintro apart source ⟨edge, member, _, enters⟩
    exact apart edge member enters

theorem isEmpty_dependentsOf (collapses : dependencies.Collapses edges) (node : NodeId) :
    (dependencies.dependentsOf node).isEmpty = edges.all fun edge => edge.source != node := by
  rw [Bool.eq_iff_iff, List.isEmpty_iff, List.eq_nil_iff_forall_not_mem]
  simp only [collapses.dependents, Joined, List.all_eq_true, bne_iff_ne]
  constructor
  · intro free edge member leaves
    exact free edge.target ⟨edge, member, leaves, rfl⟩
  · rintro apart target ⟨edge, member, leaves, _⟩
    exact apart edge member leaves

end Graph

theorem describes_plannedNode (compiles : workflow.compile = .ok compiled) (place : Nat)
    (node : Node) :
    (plannedNode (inputMappings workflow.resolvedEdges) place node).Describes node place
      (compiled.plan.inputsOf node.id) where
  node := rfl
  type := rfl
  config := rfl
  label := rfl
  index := rfl
  gated context := by
    obtain ⟨_, _, order, _, rfl⟩ := compile_eq_ok_iff.mp compiles
    exact evaluateTriggers_ne_ungated_iff.symm

theorem keys_compiled (compiles : workflow.compile = .ok compiled) :
    (Entries.keys compiled.nodes).Perm workflow.nodeIds := by
  obtain ⟨sound, _, order, _, rfl⟩ := compile_eq_ok_iff.mp compiles
  have ids : (workflow.nodes.mapIdx fun index node =>
      (node.id, plannedNode (inputMappings workflow.resolvedEdges) index node)).map Prod.fst =
        workflow.nodeIds := by
    rw [map_mapIdx]
    exact mapIdx_unnumbered workflow.nodes Node.id
  have unique := sound.unique
  rw [← nodeIds, ← ids] at unique
  rw [← ids]
  exact Entries.keys_ofList_perm unique

/-- A compiled plan has the edges of its workflow, neither lost nor repeated nor out of order, seen
alike from both ends; its graph is what they join; the roots and the leaves are the nodes that no
edge enters or leaves, and each node is on the list once. -/
theorem compile_represents (compiles : workflow.compile = .ok compiled) :
    compiled.plan.Represents workflow.resolvedEdges ∧
      compiled.graph.Collapses workflow.resolvedEdges ∧
      (compiled.plan.summary.roots = workflow.nodeIds.filter fun id =>
        workflow.resolvedEdges.all fun edge => edge.target != id) ∧
      (compiled.plan.summary.leaves = workflow.nodeIds.filter fun id =>
        workflow.resolvedEdges.all fun edge => edge.source != id) ∧
      (Entries.keys compiled.nodes).Perm workflow.nodeIds ∧
      ∀ place (inside : place < workflow.nodes.length), ∃ planned,
        compiled.node? workflow.nodes[place].id = some planned ∧
          planned.Describes workflow.nodes[place] place
            (compiled.plan.inputsOf workflow.nodes[place].id) := by
  obtain ⟨_, closed, order, _, assembled⟩ := compile_eq_ok_iff.mp compiles
  have collapses : compiled.graph.Collapses workflow.resolvedEdges := by
    rw [assembled]
    exact collapses_graph closed
  refine ⟨represents_compiled compiles, collapses, ?_, ?_, keys_compiled compiles, ?_⟩
  · subst assembled
    exact List.filter_congr fun id _ => isEmpty_dependenciesOf collapses id
  · subst assembled
    exact List.filter_congr fun id _ => isEmpty_dependentsOf collapses id
  · intro place inside
    exact ⟨_, node?_getElem compiles inside, describes_plannedNode compiles place _⟩

/-- Two nodes that are joined three times, by a trigger edge between two data edges of which one
names the default port, and once more by a connection. -/
def tangled : Workflow where
  id := "tangled"
  nodes := [⟨"b", "t", .null, none⟩, ⟨"a", "t", .null, some "first"⟩]
  edges := [
    ⟨"x", "a", "b", some "a-output-out", none⟩,
    ⟨"y", "a", "b", some "a-output-true", some "b-input-trigger"⟩,
    ⟨"x", "a", "b", none, some "b-input-default"⟩]
  connections := [⟨"a", "b"⟩]

theorem compile_represents_tangled :
    tangled.compile = .ok (tangled.assemble ["a", "b"]) ∧
      (tangled.assemble ["a", "b"]).plan.Represents tangled.resolvedEdges ∧
      (tangled.assemble ["a", "b"]).graph.Collapses tangled.resolvedEdges := by
  have compiles : tangled.compile = .ok (tangled.assemble ["a", "b"]) := by decide +kernel
  have represents := compile_represents compiles
  exact ⟨compiles, represents.1, represents.2.1⟩

end Workflow

end Flowline
