import Flowline.Workflow.Basic

/-!
Handles name a port of a node: the node id, a marker for the side, and the port id, without any
escaping. Reading takes the node id that is known and then the marker; failing that, what follows
the last marker, and failing that, the whole handle. An empty port counts as none.
-/

namespace Flowline.Handle

inductive Side where
  | output
  | input
deriving DecidableEq

def Side.marker : Side → List Char
  | .output => ['-', 'o', 'u', 't', 'p', 'u', 't', '-']
  | .input => ['-', 'i', 'n', 'p', 'u', 't', '-']

def write (side : Side) (node : NodeId) (port : PortId) : String :=
  String.ofList (node.toList ++ side.marker ++ port.toList)

def afterLast? (marker : List Char) : List Char → Option (List Char)
  | [] => marker.isPrefixOf? []
  | c :: rest =>
    match afterLast? marker rest with
    | some port => some port
    | none => marker.isPrefixOf? (c :: rest)

def portChars (marker node handle : List Char) : List Char :=
  match (node ++ marker).isPrefixOf? handle with
  | some port => port
  | none => (afterLast? marker handle).getD handle

def port? (side : Side) (node : NodeId) (handle : String) : Option PortId :=
  match portChars side.marker node.toList handle.toList with
  | [] => none
  | port => some (String.ofList port)

end Flowline.Handle
