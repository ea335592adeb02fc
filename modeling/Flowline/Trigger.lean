import Flowline.Context
import Flowline.Plan.Mapping

/-!
Whether the trigger edges of a node let it run. A trigger edge is active if its source has put out
something, either without a signal or with one that activates the branch the edge leaves through.
One active edge is enough; a node without trigger edges is not gated at all.
-/

namespace Flowline

inductive TriggerDecision where
  | ungated
  | active (edge : EdgeId)
  | inactive (triggers : List (NodeId × Option PortId))
deriving DecidableEq

namespace TriggerDecision

def shouldSkip : TriggerDecision → Bool
  | .inactive _ => true
  | _ => false

def triggerText (trigger : NodeId × Option PortId) : String :=
  trigger.1 ++ ":" ++ trigger.2.getD ""

def inactiveReason (triggers : List (NodeId × Option PortId)) : String :=
  "no active trigger (" ++ ", ".intercalate (triggers.map triggerText) ++ ")"

end TriggerDecision

namespace InputMapping

def isActive (mapping : InputMapping) (context : Context) : Bool :=
  match context.output? mapping.source with
  | none => false
  | some output =>
    match output.signal with
    | none => true
    | some signal => mapping.sourceOutput.any signal.activates

end InputMapping

/-- The first active trigger edge decides. -/
def evaluateTriggers (mappings : List InputMapping) (context : Context) : TriggerDecision :=
  match mappings.filter InputMapping.isTrigger with
  | [] => .ungated
  | trigger :: rest =>
    let triggers := trigger :: rest
    match triggers.find? fun mapping => mapping.isActive context with
    | some mapping => .active mapping.edge
    | none => .inactive (triggers.map fun mapping => (mapping.source, mapping.sourceOutput))

end Flowline
