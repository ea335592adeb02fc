import Flowline.Run.Result

/-!
The books of a run: the results in order, and the nodes that were skipped. Nodes skipped by an
inactive branch are kept apart, as they count as absent for those that depend on them, while nodes
skipped for a missing dependency stay missing.
-/

namespace Flowline

inductive RunFault where
  | notCompiled (error : CompileError)
  | nodeFailed (node : NodeId) (error : String)
  | raised (error : RunError)
deriving DecidableEq

def RunFault.message : RunFault → String
  | .notCompiled error => error.message
  | .nodeFailed node error => "Node " ++ inQuotes node ++ " failed: " ++ error
  | .raised error => error.message

structure Ledger where
  results : List NodeResult := []
  skipped : List NodeId := []
  branchSkipped : List NodeId := []
  failed : List NodeId := []
  abort : Option RunFault := none

namespace Ledger

def skipBranch (ledger : Ledger) (node : NodeId) : Ledger :=
  { ledger with
    skipped := ledger.skipped ++ [node], branchSkipped := node :: ledger.branchSkipped }

def skipDependent (ledger : Ledger) (node : NodeId) : Ledger :=
  { ledger with skipped := ledger.skipped ++ [node] }

def succeed (ledger : Ledger) (result : NodeResult) : Ledger :=
  { ledger with results := ledger.results ++ [result] }

def fail (ledger : Ledger) (result : NodeResult) : Ledger :=
  { ledger with results := ledger.results ++ [result], failed := ledger.failed ++ [result.node] }

def stop (ledger : Ledger) (fault : RunFault) : Ledger := { ledger with abort := some fault }

def isStopped (ledger : Ledger) : Bool := ledger.abort.isSome

end Ledger

end Flowline
