import Flowline.Registry

/-!
All that is wrong with a workflow, in one list: its nodes, the ends of its edges, its cycles, and,
given a registry, its node types and required inputs.
-/

namespace Flowline

inductive ValidationError where
  | cycle (nodes : List NodeId)
  | duplicateNode (node : NodeId)
  | missingType (node : NodeId)
  | unknownType (node : NodeId) (type : String)
  | unconnectedInput (node : NodeId) (port : PortId)
  | unknownNode (edge : EdgeId) (node : NodeId)
deriving DecidableEq

def ValidationError.message : ValidationError → String
  | .cycle nodes => "Cycle detected between nodes: " ++ ", ".intercalate nodes
  | .duplicateNode node => "Duplicate node id " ++ inQuotes node
  | .missingType node => "Node " ++ inQuotes node ++ " has no type"
  | .unknownType node type =>
    "Unknown node type " ++ inQuotes type ++ " for node " ++ inQuotes node
  | .unconnectedInput node port =>
    "Required input " ++ inQuotes port ++ " on node " ++ inQuotes node ++ " is not connected"
  | .unknownNode edge node =>
    "Edge " ++ inQuotes edge ++ " references unknown node " ++ inQuotes node

/-! Cycles. Nodes without open predecessors are taken away one by one; what stays lies on a cycle
or behind one. The order in which nodes and pairs are looked at is a parameter. -/

/-- `opened` counts for each node the pairs into it whose source is still there, `queue` lists the
nodes to be taken away. -/
structure Elimination where
  opened : Entries Nat
  queue : List NodeId
deriving DecidableEq

namespace Elimination

def close (state : Elimination) (target : NodeId) : Elimination :=
  match Entries.get? state.opened target with
  | none => state
  | some count =>
    { opened := Entries.insert state.opened target (count - 1)
      queue := if count - 1 = 0 then state.queue ++ [target] else state.queue }

/-- Takes `node` away, with `rest` waiting behind it. -/
def takeAway (pairs : List (NodeId × NodeId)) (state : Elimination) (node : NodeId)
    (rest : List NodeId) : Elimination :=
  ((pairs.filter fun pair => pair.1 == node).map Prod.snd).foldl close
    { state with queue := rest }

def drain (pairs : List (NodeId × NodeId)) : Nat → Elimination → Elimination
  | 0, state => state
  | fuel + 1, state =>
    match state.queue with
    | [] => state
    | node :: rest => drain pairs fuel (state.takeAway pairs node rest)

def start (nodes : List NodeId) (pairs : List (NodeId × NodeId)) : Elimination :=
  let count (node : NodeId) : Nat := (pairs.filter fun pair => pair.2 == node).length
  { opened := Entries.ofList (nodes.map fun node => (node, count node))
    queue := nodes.filter fun node => count node == 0 }

/-- Lists `nodes` without repetition; each of them is taken away at most once. -/
def run (nodes : List NodeId) (pairs : List (NodeId × NodeId)) : Elimination :=
  drain pairs nodes.length (start nodes pairs)

def remains (state : Elimination) (node : NodeId) : Bool :=
  (Entries.get? state.opened node).any fun count => decide (0 < count)

end Elimination

namespace Workflow

/-- Repeated ids and missing types, node by node; `seen` are the ids before. -/
def nodeErrors (seen : List NodeId) : List Node → List ValidationError
  | [] => []
  | node :: rest =>
    (if seen.contains node.id then [.duplicateNode node.id] else []) ++
    (if Text.isBlankText node.type then [.missingType node.id] else []) ++
    nodeErrors (node.id :: seen) rest

def edgeErrors (declared : List NodeId) (edges : List ResolvedEdge) : List ValidationError :=
  edges.flatMap fun edge =>
    (edge.endpoints.filter fun node => !declared.contains node).map (.unknownNode edge.id)

/-- The distinct pairs of declared nodes that edges join. -/
def declaredPairs (declared : List NodeId) (edges : List ResolvedEdge) : List (NodeId × NodeId) :=
  (dependencyPairs edges).filter fun pair =>
    declared.contains pair.1 && declared.contains pair.2

/-- The cycle found when nodes and pairs are looked at in the given orders. -/
def cycleErrorsAlong (declared nodes : List NodeId) (pairs : List (NodeId × NodeId)) :
    List ValidationError :=
  match declared.filter (Elimination.run nodes pairs).remains with
  | [] => []
  | node :: rest => [.cycle (node :: rest)]

def cycleErrors (declared : List NodeId) (edges : List ResolvedEdge) : List ValidationError :=
  cycleErrorsAlong declared (distinct declared) (declaredPairs declared edges)

def structuralErrors (workflow : Workflow) : List ValidationError :=
  let declared := workflow.nodeIds
  let edges := workflow.resolvedEdges
  nodeErrors [] workflow.nodes ++ edgeErrors declared edges ++ cycleErrors declared edges

variable {σ : Type}

def typeErrors (registry : Registry σ) (nodes : List Node) : List ValidationError :=
  (nodes.filter fun node => !node.type.isEmpty && !Entries.has registry node.type).map fun node =>
    .unknownType node.id node.type

def fedPorts (edges : List ResolvedEdge) (node : NodeId) : List PortId :=
  (edges.filter fun edge => !edge.isTrigger && edge.target == node).map ResolvedEdge.targetInput

def isConfigured (node : Node) (port : PortId) : Bool :=
  (node.config.field? port).any fun value => !value.isNull

/-- Required inputs that are neither fed nor configured. A node that data edges do not enter gets
the initial data, and one whose default port is fed gets a whole output: such nodes are not
checked. -/
def inputErrors (registry : Registry σ) (edges : List ResolvedEdge) (node : Node) :
    List ValidationError :=
  let fed := fedPorts edges node.id
  if fed.isEmpty || fed.contains defaultPort then []
  else
    match registry.descriptor? node.type with
    | none => []
    | some descriptor =>
      (descriptor.requiredInputs.filter fun port =>
        !isConfigured node port && !fed.contains port).map (.unconnectedInput node.id)

def registryErrors (registry : Registry σ) (workflow : Workflow) : List ValidationError :=
  typeErrors registry workflow.nodes ++
    workflow.nodes.flatMap (inputErrors registry workflow.resolvedEdges)

def validate (workflow : Workflow) (registry : Option (Registry σ)) : List ValidationError :=
  workflow.structuralErrors ++ (registry.map (registryErrors · workflow)).getD []

end Workflow

end Flowline
