import Flowline.Plan.Mapping

/-!
Which nodes wait for which others. Parallel edges count as one dependency.
-/

namespace Flowline

def distinct {α : Type} [DecidableEq α] (items : List α) : List α :=
  items.foldl (fun seen item => if seen.contains item then seen else seen ++ [item]) []

def dependencyPairs (edges : List ResolvedEdge) : List (NodeId × NodeId) :=
  distinct (edges.map fun edge => (edge.source, edge.target))

structure DependencyGraph where
  dependencies : Entries (List NodeId)
  dependents : Entries (List NodeId)
deriving DecidableEq

namespace DependencyGraph

def sourcesOf (pairs : List (NodeId × NodeId)) (node : NodeId) : List NodeId :=
  (pairs.filter fun pair => pair.2 == node).map Prod.fst

def targetsOf (pairs : List (NodeId × NodeId)) (node : NodeId) : List NodeId :=
  (pairs.filter fun pair => pair.1 == node).map Prod.snd

def ofPairs (nodes : List NodeId) (pairs : List (NodeId × NodeId)) : DependencyGraph where
  dependencies := Entries.ofList (nodes.map fun node => (node, sourcesOf pairs node))
  dependents := Entries.ofList (nodes.map fun node => (node, targetsOf pairs node))

def dependenciesOf (graph : DependencyGraph) (node : NodeId) : List NodeId :=
  (Entries.get? graph.dependencies node).getD []

def dependentsOf (graph : DependencyGraph) (node : NodeId) : List NodeId :=
  (Entries.get? graph.dependents node).getD []

def toJson (graph : DependencyGraph) : Json :=
  Json.ofFields [
    ("dependencies", .object (Entries.mapValues Json.strings graph.dependencies)),
    ("dependents", .object (Entries.mapValues Json.strings graph.dependents))]

end DependencyGraph

end Flowline
