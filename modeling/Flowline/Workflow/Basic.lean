import Flowline.Json.Basic

/-!
Workflow graphs as they are declared: nodes, edges between their ports, and connections, which name
no ports.
-/

namespace Flowline

abbrev NodeId := String
abbrev EdgeId := String
abbrev PortId := String

/-- The input port whose edges gate the node instead of feeding it. -/
def triggerPort : PortId := "trigger"

/-- The port of inputs that arrive without a port of their own. -/
def defaultPort : PortId := "default"

namespace Workflow

/-- A node instance; `type` names the processor that it runs. -/
structure Node where
  id : NodeId
  type : String
  config : Json := .null
  label : Option String := none
deriving DecidableEq

/-- An edge; its handles name a node and one of its ports. -/
structure Edge where
  id : EdgeId := ""
  source : NodeId
  target : NodeId
  sourceHandle : Option String := none
  targetHandle : Option String := none
deriving DecidableEq

structure Connection where
  source : NodeId
  target : NodeId
deriving DecidableEq

end Workflow

structure Workflow where
  id : String
  name : String := ""
  nodes : List Workflow.Node := []
  edges : List Workflow.Edge := []
  connections : List Workflow.Connection := []
deriving DecidableEq

namespace Workflow

def node? (workflow : Workflow) (id : NodeId) : Option Node :=
  workflow.nodes.find? fun node => node.id == id

end Workflow

end Flowline
