import Flowline.Proofs.Run.Walk

/-!
The lists in the books of a walk. Each grows by what a fate posts to it, node by node, so at the end
it can be told from the final fates along the order of the walk.
-/

namespace Flowline

/-- A result apart from how much of the run was behind it. -/
def NodeResult.unplaced (result : NodeResult) : NodeResult := { result with completedBefore := 0 }

namespace Fate

def results (context : Context) (node : PlannedNode) (fate : Fate) : List NodeResult :=
  (fate.outcome?.map (NodeResult.within context node.node node.type)).toList

def skips (node : PlannedNode) (fate : Fate) : List NodeId :=
  if fate.isSkip then [node.node] else []

def failures (node : PlannedNode) (fate : Fate) : List NodeId :=
  if fate.isFailure then [node.node] else []

variable {context : Context} {node : PlannedNode} {fate : Fate}

theorem mem_results {result : NodeResult} :
    result ∈ fate.results context node ↔
      ∃ outcome, fate.outcome? = some outcome ∧
        NodeResult.within context node.node node.type outcome = result := by
  rw [results, Option.mem_toList, Option.map_eq_some_iff]

theorem mem_skips {id : NodeId} :
    id ∈ fate.skips node ↔ fate.isSkip = true ∧ id = node.node := by
  unfold skips
  split <;> simp_all

theorem mem_failures {id : NodeId} :
    id ∈ fate.failures node ↔ fate.isFailure = true ∧ id = node.node := by
  unfold failures
  split <;> simp_all

end Fate

namespace Ledger

variable (ledger : Ledger) (context : Context) (node : PlannedNode) (fate : Fate)

theorem results_enter :
    (ledger.enter context node fate).results =
      ledger.results ++ fate.results context node := by
  cases fate with
  | branchSkipped => exact (List.append_nil _).symm
  | dependencySkipped => exact (List.append_nil _).symm
  | finished outcome => cases outcome <;> rfl

theorem skipped_enter :
    (ledger.enter context node fate).skipped =
      ledger.skipped ++ fate.skips node := by
  cases fate with
  | branchSkipped => rfl
  | dependencySkipped => rfl
  | finished outcome => cases outcome <;> exact (List.append_nil _).symm

theorem failed_enter :
    (ledger.enter context node fate).failed =
      ledger.failed ++ fate.failures node := by
  cases fate with
  | branchSkipped => exact (List.append_nil _).symm
  | dependencySkipped => exact (List.append_nil _).symm
  | finished outcome =>
      cases outcome with
      | error => rfl
      | ok => exact (List.append_nil _).symm

end Ledger

variable {σ τ β : Type} {setup : RunSetup σ τ} {compiled : CompiledWorkflow}

namespace RunState

/-- What is posted of a node, in view of its fate. -/
def posting (compiled : CompiledWorkflow) (state : RunState σ τ)
    (post : PlannedNode → Fate → List β) (id : NodeId) : List β :=
  match compiled.node? id, state.ledger.fate? id with
  | some node, some fate => post node fate
  | _, _ => []

theorem mem_postings {state : RunState σ τ} {post : PlannedNode → Fate → List β}
    {order : List NodeId} {item : β} :
    item ∈ order.flatMap (state.posting compiled post) ↔
      ∃ id ∈ order, ∃ node fate, compiled.node? id = some node ∧
        state.ledger.fate? id = some fate ∧ item ∈ post node fate := by
  rw [List.mem_flatMap]
  refine exists_congr fun id => and_congr_right fun _ => ?_
  unfold posting
  cases compiled.node? id with
  | none => simp
  | some node => cases state.ledger.fate? id <;> simp

end RunState

namespace RunSetup

variable {state : RunState σ τ} {rest : List NodeId}

/-- A list that every visit extends by what it posts is extended by a walk node by node. -/
theorem walk_posts (posted : RunState σ τ → List β) (post : PlannedNode → Fate → List β)
    (step : ∀ mappings node (next : RunState σ τ),
      next.context.workflowId = state.context.workflowId →
      next.context.pipelineId = state.context.pipelineId →
      next.context.output? node.node = none →
        posted (setup.visit mappings node next) =
          posted next ++ post node (setup.settled mappings node next).1)
    (pending : state.Pending compiled rest)
    (unstopped : (setup.walk compiled rest state).ledger.isStopped = false) :
    posted (setup.walk compiled rest state) =
      posted state ++
        rest.flatMap ((setup.walk compiled rest state).posting compiled post) := by
  induction rest generalizing state with
  | nil => exact (List.append_nil _).symm
  | cons id rest ih =>
      obtain ⟨node, found, rfl, visited⟩ := setup.visited_of_pending pending
      have settled := fate?_head pending visited found
      obtain ⟨_, goes⟩ := walk_cons_of_unstopped found unstopped
      rw [goes] at unstopped settled ⊢
      -- The ids of the run stay as they were at its start, so the step can still be used.
      have rested := ih (fun mappings each next sameWorkflow samePipeline absent =>
        step mappings each next (sameWorkflow.trans visited.continued.workflowId)
          (samePipeline.trans visited.continued.pipelineId) absent) visited.pending unstopped
      rw [rested, step _ _ _ rfl rfl visited.fresh, List.flatMap_cons, List.append_assoc]
      congr 2
      simp only [RunState.posting, found, settled]

theorem results_walk (pending : state.Pending compiled rest)
    (unstopped : (setup.walk compiled rest state).ledger.isStopped = false) :
    (setup.walk compiled rest state).ledger.results.map NodeResult.unplaced =
      state.ledger.results.map NodeResult.unplaced ++
        rest.flatMap ((setup.walk compiled rest state).posting compiled fun node fate =>
          (fate.results state.context node).map NodeResult.unplaced) := by
  refine walk_posts (fun state => state.ledger.results.map NodeResult.unplaced) _ ?_ pending
    unstopped
  intro mappings node next sameWorkflow samePipeline absent
  obtain ⟨observer, visited⟩ := setup.visit_eq mappings node next absent
  simp only [visited, entered, Ledger.results_enter, List.map_append, Fate.results]
  cases (setup.settled mappings node next).1.outcome? with
  | none => rfl
  | some outcome =>
      simp [NodeResult.within, NodeResult.unplaced, sameWorkflow, samePipeline]

theorem skipped_walk (pending : state.Pending compiled rest)
    (unstopped : (setup.walk compiled rest state).ledger.isStopped = false) :
    (setup.walk compiled rest state).ledger.skipped =
      state.ledger.skipped ++
        rest.flatMap ((setup.walk compiled rest state).posting compiled Fate.skips) := by
  refine walk_posts (fun state => state.ledger.skipped) _ ?_ pending unstopped
  intro mappings node next _ _ absent
  obtain ⟨observer, visited⟩ := setup.visit_eq mappings node next absent
  rw [visited]
  exact Ledger.skipped_enter _ _ _ _

theorem failed_walk (pending : state.Pending compiled rest)
    (unstopped : (setup.walk compiled rest state).ledger.isStopped = false) :
    (setup.walk compiled rest state).ledger.failed =
      state.ledger.failed ++
        rest.flatMap ((setup.walk compiled rest state).posting compiled Fate.failures) := by
  refine walk_posts (fun state => state.ledger.failed) _ ?_ pending unstopped
  intro mappings node next _ _ absent
  obtain ⟨observer, visited⟩ := setup.visit_eq mappings node next absent
  rw [visited]
  exact Ledger.failed_enter _ _ _ _

end RunSetup

end Flowline
