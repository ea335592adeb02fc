import Flowline.Workflow.Handle

/-!
Building a workflow step by step. Edges are numbered from one and get handles that name their
ports.
-/

namespace Flowline.Workflow

def addNode (workflow : Workflow) (id : NodeId) (type : String) : Workflow :=
  { workflow with nodes := workflow.nodes ++ [{ id, type }] }

def configureLast (config : Json) : List Node → List Node
  | [] => []
  | [node] => [{ node with config }]
  | node :: next :: rest => node :: configureLast config (next :: rest)

def withConfig (workflow : Workflow) (config : Json) : Workflow :=
  { workflow with nodes := configureLast config workflow.nodes }

def addEdge (workflow : Workflow) (source : NodeId) (sourcePort : PortId) (target : NodeId)
    (targetPort : PortId) : Workflow :=
  { workflow with
    edges := workflow.edges ++ [{
      id := "edge-" ++ (workflow.edges.length + 1).repr
      source
      target
      sourceHandle := some (Handle.write .output source sourcePort)
      targetHandle := some (Handle.write .input target targetPort) }] }

def addTrigger (workflow : Workflow) (source : NodeId) (branch : PortId) (target : NodeId) :
    Workflow :=
  workflow.addEdge source branch target triggerPort

def connect (workflow : Workflow) (source target : NodeId) : Workflow :=
  { workflow with connections := workflow.connections ++ [{ source, target }] }

inductive BuildStep where
  | node (id : NodeId) (type : String)
  | config (value : Json)
  | edge (source : NodeId) (sourcePort : PortId) (target : NodeId) (targetPort : PortId)
  | trigger (source : NodeId) (branch : PortId) (target : NodeId)
  | connect (source target : NodeId)

def apply (workflow : Workflow) : BuildStep → Workflow
  | .node id type => workflow.addNode id type
  | .config value => workflow.withConfig value
  | .edge source sourcePort target targetPort =>
    workflow.addEdge source sourcePort target targetPort
  | .trigger source branch target => workflow.addTrigger source branch target
  | .connect source target => workflow.connect source target

def build (id name : String) (steps : List BuildStep) : Workflow :=
  steps.foldl apply { id, name }

end Flowline.Workflow
