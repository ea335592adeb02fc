/-!
Placing the nodes of a graph one after another, each after all those that it waits for, and of the
nodes that are free the one with the least index first. Nodes are natural numbers; the graph gives
for each node the nodes that wait for it.
-/

namespace Flowline

/-- `waiting` counts for each node the unplaced nodes that it waits for, `ready` lists in ascending
order the unplaced nodes that wait for none. -/
structure Frontier where
  waiting : List Nat
  ready : List Nat
  placed : List Nat
deriving DecidableEq

namespace Frontier

def insertAscending (node : Nat) : List Nat → List Nat
  | [] => [node]
  | other :: rest =>
    if node ≤ other then node :: other :: rest else other :: insertAscending node rest

def start (waiting : List Nat) : Frontier where
  waiting
  ready := (List.range waiting.length).filter fun node => waiting.getD node 0 == 0
  placed := []

/-- One node that `node` waits for has been placed. -/
def release (frontier : Frontier) (node : Nat) : Frontier :=
  let left := frontier.waiting.getD node 0 - 1
  { frontier with
    waiting := frontier.waiting.set node left
    ready := if left = 0 then insertAscending node frontier.ready else frontier.ready }

/-- Places `node`, with `rest` being ready besides. -/
def place (dependents : Nat → List Nat) (frontier : Frontier) (node : Nat) (rest : List Nat) :
    Frontier :=
  (dependents node).foldl release
    { frontier with ready := rest, placed := frontier.placed ++ [node] }

def drain (dependents : Nat → List Nat) : Nat → Frontier → Frontier
  | 0, frontier => frontier
  | fuel + 1, frontier =>
    match frontier.ready with
    | [] => frontier
    | node :: rest => drain dependents fuel (place dependents frontier node rest)

/-- Places what can be placed; each node is placed at most once. -/
def run (waiting : List Nat) (dependents : Nat → List Nat) : Frontier :=
  drain dependents waiting.length (start waiting)

end Frontier

end Flowline
