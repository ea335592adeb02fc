import Flowline.Context
import Flowline.Plan.Mapping

/-!
The inputs of a node, gathered from the outputs on record along its data edges. A node without data
edges gets the initial data. A source that a gateway skipped contributes nothing, any other source
without an output is a missing dependency. Several values for one port become a list in edge order.
-/

namespace Flowline

inductive InputResolution where
  | ready (inputs : Json.Object)
  | missing (source : NodeId) (edge : EdgeId)
deriving DecidableEq

namespace InputResolution

/-- The values gathered so far, and the ports that have received more than one. -/
structure Gathered where
  values : Json.Object := []
  merged : List PortId := []

def Gathered.add (gathered : Gathered) (port : PortId) (value : Json) : Gathered :=
  match Entries.get? gathered.values port with
  | none => { gathered with values := Entries.insert gathered.values port value }
  | some existing =>
    if gathered.merged.contains port then
      let items :=
        match existing with
        | .array items => items ++ [value]
        | other => [other, value]
      { gathered with values := Entries.insert gathered.values port (.array items) }
    else
      { values := Entries.insert gathered.values port (.array [existing, value])
        merged := port :: gathered.merged }

/-- What an edge carries of its source's output: the field of its source port, or the whole output
if there is no such field or the edge enters the default port. -/
def carried (mapping : InputMapping) (output : Output) : Json :=
  if mapping.targetInput = defaultPort then output.toValue
  else
    match mapping.sourceOutput with
    | none => output.toValue
    | some port => (output.get? port).getD output.toValue

def gather (context : Context) (skipped : List NodeId) (gathered : Gathered) :
    List InputMapping → InputResolution
  | [] => .ready gathered.values
  | mapping :: rest =>
    match context.output? mapping.source with
    | some output =>
      gather context skipped (gathered.add mapping.targetInput (carried mapping output)) rest
    | none =>
      if skipped.contains mapping.source then gather context skipped gathered rest
      else .missing mapping.source mapping.edge

end InputResolution

def resolveInputs (mappings : List InputMapping) (context : Context) (skipped : List NodeId) :
    InputResolution :=
  match mappings.filter InputMapping.isData with
  | [] => .ready context.initialData
  | mapping :: rest => InputResolution.gather context skipped {} (mapping :: rest)

end Flowline
