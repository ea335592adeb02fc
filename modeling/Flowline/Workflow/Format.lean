import Flowline.Json.Decoder
import Flowline.Workflow.ResolvedEdge

/-!
The JSON form of workflows. Absent labels and handles and empty lists of edges and connections are
left out when writing, and everything but ids, types and endpoints may be left out when reading.
-/

namespace Flowline

namespace Json

/-- A field that is left out when there is no value. -/
def optionalField (key : String) : Option Json → List (String × Json)
  | none => []
  | some value => [(key, value)]

/-- A field that is left out when the list is empty. -/
def nonEmptyField (key : String) : List Json → List (String × Json)
  | [] => []
  | item :: rest => [(key, .array (item :: rest))]

def ofString? (text : Option String) : Json := ofOption (text.map .string)

end Json

open Json (ofFields optionalField nonEmptyField Record)
open Json.Decoder (string option list)

namespace Workflow

def Node.toJson (node : Node) : Json :=
  ofFields <|
    [("id", .string node.id), ("type", .string node.type), ("config", node.config)] ++
    optionalField "label" (node.label.map .string)

def Edge.toJson (edge : Edge) : Json :=
  ofFields <|
    [("id", .string edge.id), ("source", .string edge.source), ("target", .string edge.target)] ++
    optionalField "sourceHandle" (edge.sourceHandle.map .string) ++
    optionalField "targetHandle" (edge.targetHandle.map .string)

def Connection.toJson (connection : Connection) : Json :=
  ofFields [("source", .string connection.source), ("target", .string connection.target)]

def toJson (workflow : Workflow) : Json :=
  ofFields <|
    [("id", .string workflow.id), ("name", .string workflow.name),
      ("nodes", .array (workflow.nodes.map Node.toJson))] ++
    nonEmptyField "edges" (workflow.edges.map Edge.toJson) ++
    nonEmptyField "connections" (workflow.connections.map Connection.toJson)

def Node.decoder : Json.Decoder Node :=
  Record.make Node.mk
    |>.field "id" string .required
    |>.field "type" string .required
    |>.field "config" Json.Decoder.json (.default .null)
    |>.field "label" (option string) (.default none)
    |>.decoder "WorkflowNode"

def Edge.decoder : Json.Decoder Edge :=
  Record.make Edge.mk
    |>.field "id" string (.default "")
    |>.field "source" string .required
    |>.field "target" string .required
    |>.field "sourceHandle" (option string) (.default none)
    |>.field "targetHandle" (option string) (.default none)
    |>.decoder "WorkflowEdge"

def Connection.decoder : Json.Decoder Connection :=
  Record.make Connection.mk
    |>.field "source" string .required
    |>.field "target" string .required
    |>.decoder "Connection"

def decoder : Json.Decoder Workflow :=
  Record.make Workflow.mk
    |>.field "id" string .required
    |>.field "name" string (.default "")
    |>.field "nodes" (list Node.decoder) (.default [])
    |>.field "edges" (list Edge.decoder) (.default [])
    |>.field "connections" (list Connection.decoder) (.default [])
    |>.decoder "Workflow"

end Workflow

namespace EdgeKind

def name : EdgeKind → String
  | .data => "data"
  | .trigger => "trigger"

end EdgeKind

def ResolvedEdge.toJson (edge : ResolvedEdge) : Json :=
  ofFields [
    ("id", .string edge.id),
    ("source", .string edge.source),
    ("target", .string edge.target),
    ("sourcePort", Json.ofString? edge.sourcePort),
    ("targetPort", Json.ofString? edge.targetPort),
    ("kind", .string edge.kind.name)]

end Flowline
