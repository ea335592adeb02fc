import Flowline.Plan.DependencyGraph
import Flowline.Plan.Frontier
import Flowline.Text.Blank

/-!
Compiling a workflow into a plan: the order in which its nodes run, and the edges grouped by either
end. A workflow without a plan is refused for the first cause found: nodes are checked in their
order, then edges in theirs, and last whether all nodes can be placed.
-/

namespace Flowline

inductive CompileError where
  | cycle (nodes : List NodeId)
  | unknownNode (edge : EdgeId) (node : NodeId)
  | duplicateNode (node : NodeId)
  | missingType (node : NodeId)
deriving DecidableEq

def inQuotes (text : String) : String := "'" ++ text ++ "'"

def CompileError.message : CompileError → String
  | .cycle nodes => "Cycle detected in workflow; unresolved nodes: " ++ ", ".intercalate nodes
  | .unknownNode edge node =>
    "Edge " ++ inQuotes edge ++ " references unknown node " ++ inQuotes node
  | .duplicateNode node => "Duplicate node id " ++ inQuotes node
  | .missingType node => "Node " ++ inQuotes node ++ " has no type"

structure PlanSummary where
  nodeCount : Nat
  edgeCount : Nat
  triggerEdgeCount : Nat
  roots : List NodeId
  leaves : List NodeId
deriving DecidableEq

structure Plan where
  order : List NodeId
  inputs : Entries (List InputMapping)
  outputs : Entries (List OutputMapping)
  summary : PlanSummary
deriving DecidableEq

namespace Plan

def inputsOf (plan : Plan) (node : NodeId) : List InputMapping :=
  (Entries.get? plan.inputs node).getD []

def inputsFrom (plan : Plan) (node source : NodeId) : List InputMapping :=
  (plan.inputsOf node).filter fun mapping => mapping.source == source

def outputsOf (plan : Plan) (node : NodeId) : List OutputMapping :=
  (Entries.get? plan.outputs node).getD []

def position? (plan : Plan) (node : NodeId) : Option Nat :=
  plan.order.findIdx? fun other => other == node

end Plan

/-- What a run needs to know of one node; it is gated if some edge into it is a trigger edge. -/
structure PlannedNode where
  node : NodeId
  type : String
  config : Json
  label : Option String
  index : Nat
  gated : Bool
deriving DecidableEq

structure CompiledWorkflow where
  workflowId : String
  workflowName : String
  plan : Plan
  nodes : Entries PlannedNode
  graph : DependencyGraph
deriving DecidableEq

namespace CompiledWorkflow

def node? (compiled : CompiledWorkflow) (id : NodeId) : Option PlannedNode :=
  Entries.get? compiled.nodes id

def nodeCount (compiled : CompiledWorkflow) : Nat := compiled.plan.order.length

end CompiledWorkflow

namespace Workflow

def nodeIds (workflow : Workflow) : List NodeId := workflow.nodes.map Node.id

/-- Every node has a type and an id that none before it has; `seen` are the ids before. -/
def checkNodes (seen : List NodeId) : List Node → Except CompileError Unit
  | [] => .ok ()
  | node :: rest =>
    if Text.isBlankText node.type then .error (.missingType node.id)
    else if seen.contains node.id then .error (.duplicateNode node.id)
    else checkNodes (node.id :: seen) rest

/-- Every edge joins declared nodes; the source is looked at first. -/
def checkEdges (declared : List NodeId) : List ResolvedEdge → Except CompileError Unit
  | [] => .ok ()
  | edge :: rest =>
    match edge.endpoints.find? fun node => !declared.contains node with
    | some node => .error (.unknownNode edge.id node)
    | none => checkEdges declared rest

def dependentIndices (declared : List NodeId) (graph : DependencyGraph) (index : Nat) : List Nat :=
  (graph.dependentsOf (declared.getD index "")).map declared.idxOf

def executionOrder (declared : List NodeId) (graph : DependencyGraph) :
    Except CompileError (List NodeId) :=
  let frontier := Frontier.run (declared.map fun node => (graph.dependenciesOf node).length)
    (dependentIndices declared graph)
  if frontier.placed.length < declared.length then
    let stuck := (declared.zip frontier.waiting).filter fun entry => decide (0 < entry.2)
    .error (.cycle (stuck.map Prod.fst))
  else .ok (frontier.placed.map fun index => declared.getD index "")

def inputMappings (edges : List ResolvedEdge) : Entries (List InputMapping) :=
  edges.foldl (fun table edge => Entries.push table edge.target edge.toInput) []

def outputMappings (edges : List ResolvedEdge) : Entries (List OutputMapping) :=
  edges.foldl (fun table edge => Entries.push table edge.source edge.toOutput) []

def plannedNode (inputs : Entries (List InputMapping)) (index : Nat) (node : Node) :
    PlannedNode where
  node := node.id
  type := node.type
  config := node.config
  label := node.label
  index
  gated := ((Entries.get? inputs node.id).getD []).any InputMapping.isTrigger

def summary (declared : List NodeId) (edges : List ResolvedEdge) (graph : DependencyGraph) :
    PlanSummary where
  nodeCount := declared.length
  edgeCount := edges.length
  triggerEdgeCount := (edges.filter ResolvedEdge.isTrigger).length
  roots := declared.filter fun node => (graph.dependenciesOf node).isEmpty
  leaves := declared.filter fun node => (graph.dependentsOf node).isEmpty

def compile (workflow : Workflow) : Except CompileError CompiledWorkflow := do
  checkNodes [] workflow.nodes
  let declared := workflow.nodeIds
  let edges := workflow.resolvedEdges
  checkEdges declared edges
  let graph := DependencyGraph.ofPairs declared (dependencyPairs edges)
  let order ← executionOrder declared graph
  let inputs := inputMappings edges
  let nodes := workflow.nodes.mapIdx fun index node => (node.id, plannedNode inputs index node)
  return {
    workflowId := workflow.id
    workflowName := workflow.name
    plan := {
      order
      inputs
      outputs := outputMappings edges
      summary := summary declared edges graph }
    nodes := Entries.ofList nodes
    graph }

end Workflow

/-! The JSON form of plans. -/

namespace PlanSummary

def toJson (summary : PlanSummary) : Json :=
  Json.ofFields [
    ("node_count", Json.ofNat summary.nodeCount),
    ("edge_count", Json.ofNat summary.edgeCount),
    ("trigger_edge_count", Json.ofNat summary.triggerEdgeCount),
    ("root_nodes", Json.strings summary.roots),
    ("leaf_nodes", Json.strings summary.leaves)]

end PlanSummary

namespace Plan

def inputsToJson (plan : Plan) : Json :=
  .object
    (Entries.mapValues (fun mappings => .array (mappings.map InputMapping.toJson)) plan.inputs)

def outputsToJson (plan : Plan) : Json :=
  .object
    (Entries.mapValues (fun mappings => .array (mappings.map OutputMapping.toJson)) plan.outputs)

def toJson (plan : Plan) : Json :=
  Json.ofFields [
    ("execution_order", Json.strings plan.order),
    ("input_mappings", plan.inputsToJson),
    ("output_mappings", plan.outputsToJson),
    ("metadata", plan.summary.toJson)]

end Plan

def PlannedNode.toJson (node : PlannedNode) : Json :=
  Json.ofFields [
    ("node_id", .string node.node),
    ("processor_id", .string node.type),
    ("config", node.config),
    ("metadata", Json.ofFields [
      ("label", Json.ofString? node.label),
      ("declaration_index", Json.ofNat node.index),
      ("has_trigger_inputs", .bool node.gated)])]

def CompiledWorkflow.toJson (compiled : CompiledWorkflow) : Json :=
  Json.ofFields [
    ("workflow_id", .string compiled.workflowId),
    ("execution_plan", compiled.plan.toJson),
    ("node_mappings", .object (Entries.mapValues PlannedNode.toJson compiled.nodes)),
    ("dependency_graph", compiled.graph.toJson),
    ("metadata", Json.ofFields [("workflow_name", .string compiled.workflowName)])]

end Flowline
