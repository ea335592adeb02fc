import Flowline.Workflow.Format

/-!
Edges as one of their ends sees them.
-/

namespace Flowline

structure InputMapping where
  kind : EdgeKind
  source : NodeId
  sourceOutput : Option PortId
  targetInput : PortId
  edge : EdgeId
deriving DecidableEq

structure OutputMapping where
  target : NodeId
  sourceOutput : Option PortId
  targetInput : PortId
  kind : EdgeKind
  edge : EdgeId
deriving DecidableEq

namespace ResolvedEdge

def toInput (edge : ResolvedEdge) : InputMapping :=
  ⟨edge.kind, edge.source, edge.sourcePort, edge.targetInput, edge.id⟩

def toOutput (edge : ResolvedEdge) : OutputMapping :=
  ⟨edge.target, edge.sourcePort, edge.targetInput, edge.kind, edge.id⟩

end ResolvedEdge

namespace InputMapping

def isTrigger (mapping : InputMapping) : Bool := mapping.kind == .trigger

def isData (mapping : InputMapping) : Bool := mapping.kind == .data

def kindName : EdgeKind → String
  | .data => "output"
  | .trigger => "trigger"

def toJson (mapping : InputMapping) : Json :=
  Json.ofFields [
    ("type", .string (kindName mapping.kind)),
    ("source_node", .string mapping.source),
    ("source_output", Json.ofString? mapping.sourceOutput),
    ("target_input", .string mapping.targetInput),
    ("edge_id", .string mapping.edge)]

def decoder : Json.Decoder InputMapping :=
  Json.Record.make InputMapping.mk
    |>.field "type" (Json.Decoder.choice [("output", .data), ("trigger", .trigger)]) .required
    |>.field "source_node" Json.Decoder.string .required
    |>.field "source_output" (Json.Decoder.option Json.Decoder.string) (.optional none)
    |>.field "target_input" Json.Decoder.string .required
    |>.field "edge_id" Json.Decoder.string .required
    |>.decoder "InputMapping"

end InputMapping

def OutputMapping.toJson (mapping : OutputMapping) : Json :=
  Json.ofFields [
    ("target_node", .string mapping.target),
    ("source_output", Json.ofString? mapping.sourceOutput),
    ("target_input", .string mapping.targetInput),
    ("edge_type", .string mapping.kind.name),
    ("edge_id", .string mapping.edge)]

end Flowline
