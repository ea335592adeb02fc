import Flowline.Workflow.Handle

/-!
The edges and connections of a workflow as one list, with handles read into ports and with an id
for each: its own, or its place in the list that it comes from.
-/

namespace Flowline

/-- Data edges carry values, trigger edges gate their target. -/
inductive EdgeKind where
  | data
  | trigger
deriving DecidableEq

structure ResolvedEdge where
  id : EdgeId
  source : NodeId
  target : NodeId
  sourcePort : Option PortId
  targetPort : Option PortId
deriving DecidableEq

namespace ResolvedEdge

/-- An edge is a trigger edge exactly if it enters the trigger port. -/
def kind (edge : ResolvedEdge) : EdgeKind :=
  if edge.targetPort = some triggerPort then .trigger else .data

def isTrigger (edge : ResolvedEdge) : Bool := edge.kind == .trigger

def targetInput (edge : ResolvedEdge) : PortId := edge.targetPort.getD defaultPort

def endpoints (edge : ResolvedEdge) : List NodeId := [edge.source, edge.target]

end ResolvedEdge

namespace Workflow

def Edge.resolve (index : Nat) (edge : Edge) : ResolvedEdge where
  id := if edge.id.isEmpty then "edge-" ++ index.repr else edge.id
  source := edge.source
  target := edge.target
  sourcePort := edge.sourceHandle.bind (Handle.port? .output edge.source)
  targetPort := edge.targetHandle.bind (Handle.port? .input edge.target)

def Connection.resolve (index : Nat) (connection : Connection) : ResolvedEdge where
  id := "connection-" ++ index.repr
  source := connection.source
  target := connection.target
  sourcePort := none
  targetPort := none

/-- Edges come first, connections after them. -/
def resolvedEdges (workflow : Workflow) : List ResolvedEdge :=
  workflow.edges.mapIdx Edge.resolve ++ workflow.connections.mapIdx Connection.resolve

end Workflow

end Flowline
