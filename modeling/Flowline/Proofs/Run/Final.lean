import Flowline.Proofs.Run.Postings
import Flowline.Run.Response

/-!
The state that a run ends in, for a workflow that compiles.
-/

namespace Flowline.Orchestrator

variable {σ τ : Type} {orchestrator : Orchestrator σ τ} {request : RunRequest}
  {compiled : CompiledWorkflow} {world : σ} {observer : τ}

def start (orchestrator : Orchestrator σ τ) (request : RunRequest) (compiled : CompiledWorkflow)
    (world : σ) (observer : τ) : RunState σ τ :=
  initialState request world
    ((orchestrator.setup request.options).emit (.started (info request compiled.nodeCount))
      observer)

def final (orchestrator : Orchestrator σ τ) (request : RunRequest) (compiled : CompiledWorkflow)
    (world : σ) (observer : τ) : RunState σ τ :=
  (orchestrator.setup request.options).walk compiled compiled.plan.order
    (orchestrator.start request compiled world observer)

theorem orchestrate_compiled (compiles : request.workflow.compile = .ok compiled) (world : σ)
    (observer : τ) :
    orchestrator.orchestrate request world observer =
      let final := orchestrator.final request compiled world observer
      (.ofLedger (finalStatus final.ledger) compiled.nodeCount final.ledger, final.world,
        (orchestrator.setup request.options).emit (.finished (finalStatus final.ledger))
          final.observer) := by
  rw [orchestrate, compiles]
  rfl

theorem completed_iff (compiles : request.workflow.compile = .ok compiled) :
    (orchestrator.orchestrate request world observer).1.status = .completed ↔
      (orchestrator.final request compiled world observer).ledger.isStopped = false := by
  rw [orchestrate_compiled compiles]
  simp only [RunResponse.ofLedger, finalStatus]
  cases (orchestrator.final request compiled world observer).ledger.isStopped <;> simp

theorem pending_start (compiles : request.workflow.compile = .ok compiled) (world : σ)
    (observer : τ) :
    (orchestrator.start request compiled world observer).Pending compiled
      compiled.plan.order where
  planned := Workflow.planned_order compiles
  unique := Workflow.nodup_order compiles
  forward := Workflow.fedFromFront_order compiles
  fresh := fun _ _ => rfl
  agreed := fun _ => rfl

theorem final_continues (orchestrator : Orchestrator σ τ)
    (compiles : request.workflow.compile = .ok compiled) (world : σ) (observer : τ) :
    (orchestrator.start request compiled world observer).Continues compiled.plan.order
      (orchestrator.final request compiled world observer) :=
  RunSetup.walk_continues _ (pending_start compiles world observer)

theorem abort_final (orchestrator : Orchestrator σ τ) (world : σ) (observer : τ)
    (compiles : request.workflow.compile = .ok compiled)
    (tolerant : (orchestrator.setup request.options).settings.continueOnError = true) :
    (orchestrator.final request compiled world observer).ledger.abort = none :=
  RunSetup.abort_walk tolerant (pending_start compiles _ _)

theorem isStopped_final (orchestrator : Orchestrator σ τ) (world : σ) (observer : τ)
    (compiles : request.workflow.compile = .ok compiled)
    (tolerant : (orchestrator.setup request.options).settings.continueOnError = true) :
    (orchestrator.final request compiled world observer).ledger.isStopped = false := by
  rw [Ledger.isStopped, abort_final orchestrator world observer compiles tolerant]
  rfl

theorem fate?_final_eq_none (compiles : request.workflow.compile = .ok compiled) {id : NodeId}
    (absent : id ∉ compiled.plan.order) :
    (orchestrator.final request compiled world observer).ledger.fate? id = none := by
  rw [(final_continues orchestrator compiles world observer).kept id absent]
  rfl

theorem fate?_final (compiles : request.workflow.compile = .ok compiled)
    (unstopped : (orchestrator.final request compiled world observer).ledger.isStopped = false)
    {node : Workflow.Node} (declared : node ∈ request.workflow.nodes) :
    ∃ index world', (orchestrator.final request compiled world observer).ledger.fate? node.id =
      some ((orchestrator.setup request.options).settle
        (Workflow.plannedNode (Workflow.inputMappings request.workflow.resolvedEdges) index node)
        world'
        (decideNode (compiled.plan.inputsOf node.id)
          (orchestrator.final request compiled world observer).context
          (orchestrator.final request compiled world observer).ledger.branchSkipped)).1 := by
  obtain ⟨index, found⟩ := Workflow.node?_compiled compiles declared
  have member : node.id ∈ compiled.plan.order :=
    (Workflow.mem_order compiles).mpr ⟨node, declared, rfl⟩
  exact ⟨index, RunSetup.fate?_walk (pending_start compiles _ _) unstopped member found⟩

section Postings

variable (compiles : request.workflow.compile = .ok compiled)
  (unstopped : (orchestrator.final request compiled world observer).ledger.isStopped = false)

include compiles unstopped

theorem results_final :
    (orchestrator.final request compiled world observer).ledger.results.map NodeResult.unplaced =
      compiled.plan.order.flatMap
        ((orchestrator.final request compiled world observer).posting compiled fun node fate =>
          (fate.results (orchestrator.start request compiled world observer).context node).map
            NodeResult.unplaced) :=
  RunSetup.results_walk (pending_start compiles _ _) unstopped

theorem skipped_final :
    (orchestrator.final request compiled world observer).ledger.skipped =
      compiled.plan.order.flatMap
        ((orchestrator.final request compiled world observer).posting compiled Fate.skips) :=
  RunSetup.skipped_walk (pending_start compiles _ _) unstopped

theorem failed_final :
    (orchestrator.final request compiled world observer).ledger.failed =
      compiled.plan.order.flatMap
        ((orchestrator.final request compiled world observer).posting compiled Fate.failures) :=
  RunSetup.failed_walk (pending_start compiles _ _) unstopped

theorem fate?_of_mem_results {result : NodeResult}
    (member : result ∈ (orchestrator.final request compiled world observer).ledger.results) :
    (orchestrator.final request compiled world observer).ledger.fate? result.node =
      some (.finished result.outcome) := by
  have posted := List.mem_map_of_mem (f := NodeResult.unplaced) member
  rw [results_final compiles unstopped, RunState.mem_postings] at posted
  obtain ⟨id, placed, node, fate, found, settled, posted⟩ := posted
  obtain ⟨declared, listed, rfl⟩ := (Workflow.mem_order compiles).mp placed
  obtain ⟨_, planned⟩ := Workflow.node?_compiled compiles listed
  cases planned.symm.trans found
  obtain ⟨reported, posted, same⟩ := List.mem_map.mp posted
  cases fate with
  | branchSkipped => simp [Fate.results, Fate.outcome?] at posted
  | dependencySkipped => simp [Fate.results, Fate.outcome?] at posted
  | finished outcome =>
      cases List.mem_singleton.mp posted
      have sameNode : declared.id = result.node := congrArg NodeResult.node same
      have sameOutcome : outcome = result.outcome := congrArg NodeResult.outcome same
      rw [← sameNode, ← sameOutcome, settled]

theorem mem_failed_final {id : NodeId} (placed : id ∈ compiled.plan.order) {fault : NodeFault}
    (settled : (orchestrator.final request compiled world observer).ledger.fate? id =
      some (.finished (.error fault))) :
    id ∈ (orchestrator.final request compiled world observer).ledger.failed := by
  obtain ⟨node, declared, rfl⟩ := (Workflow.mem_order compiles).mp placed
  obtain ⟨_, found⟩ := Workflow.node?_compiled compiles declared
  rw [failed_final compiles unstopped, RunState.mem_postings]
  exact ⟨_, placed, _, _, found, settled, List.mem_singleton_self _⟩

end Postings

end Flowline.Orchestrator
