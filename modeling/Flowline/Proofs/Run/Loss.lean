import Flowline.Proofs.Run.Meaning
import Flowline.Proofs.Run.Trace

/-!
Where missing dependencies come from. All sources of a node are settled before it is visited, so it
lacks a dependency only if one of them has failed or was itself left without a dependency.
-/

namespace Flowline

namespace Fate

/-- The node leaves those that need its output without a dependency. -/
def isLoss : Fate → Bool
  | .branchSkipped => false
  | .finished (.ok _) => false
  | _ => true

/-- The node was left without a dependency. -/
def isDeprived : Fate → Bool
  | .dependencySkipped => true
  | .finished (.error (.missingDependency _)) => true
  | _ => false

theorem isLoss_eq_false_iff {fate : Fate} :
    fate.isLoss = false ↔ fate.isFailure = false ∧ fate.isDeprived = false := by
  cases fate with
  | branchSkipped => exact iff_of_true rfl ⟨rfl, rfl⟩
  | dependencySkipped => simp [isLoss, isDeprived]
  | finished outcome =>
      cases outcome with
      | ok output => exact iff_of_true rfl ⟨rfl, rfl⟩
      | error fault => simp [isLoss, isFailure]

end Fate

variable {σ τ : Type} {setup : RunSetup σ τ} {compiled : CompiledWorkflow} {state : RunState σ τ}
  {id : NodeId} {rest : List NodeId} {node : PlannedNode}

namespace RunState

/-- What the nodes of `rest` are fed by is settled, unless it is itself among them. -/
def Grounded (compiled : CompiledWorkflow) (rest : List NodeId) (state : RunState σ τ) : Prop :=
  ∀ id ∈ rest, ∀ mapping ∈ compiled.plan.inputsOf id,
    mapping.source ∈ rest ∨ ∃ fate, state.ledger.fate? mapping.source = some fate

def Unharmed (state : RunState σ τ) : Prop :=
  ∀ id fate, state.ledger.fate? id = some fate → fate.isLoss = false

theorem Grounded.tail (grounded : state.Grounded compiled (node.node :: rest))
    (visited : setup.Visited compiled node rest state) :
    (setup.visit (compiled.plan.inputsOf node.node) node state).Grounded compiled rest := by
  intro id member mapping fed
  by_cases head : mapping.source = node.node
  · rw [head]
    exact Or.inr ⟨_, visited.settled⟩
  · refine (grounded id (List.mem_cons_of_mem _ member) mapping fed).imp ?_ ?_
    · exact fun placed => (List.mem_cons.mp placed).resolve_left head
    · rintro ⟨fate, settled⟩
      refine ⟨fate, ?_⟩
      rw [visited.continued.kept _ fun same => head (List.mem_singleton.mp same)]
      exact settled

theorem Grounded.front {before after : List NodeId}
    (forward : FedFromFront compiled (before ++ after))
    (grounded : state.Grounded compiled (before ++ after)) : state.Grounded compiled before := by
  intro id member mapping fed
  refine (grounded id (List.mem_append_left _ member) mapping fed).imp_left fun placed => ?_
  obtain ⟨first, last, rfl⟩ := List.append_of_mem member
  have apart : mapping.source ∉ id :: (last ++ after) :=
    forward first id (last ++ after) (by rw [List.append_assoc, List.cons_append]) mapping fed
  rcases List.mem_append.mp placed with here | later
  · exact here
  · exact absurd (List.mem_cons_of_mem _ (List.mem_append_right _ later)) apart

theorem Grounded.back {before after : List NodeId}
    (pending : state.Pending compiled (before ++ after))
    (grounded : state.Grounded compiled (before ++ after))
    (running : (setup.walk compiled before state).ledger.isStopped = false) :
    (setup.walk compiled before state).Grounded compiled after := by
  intro id member mapping fed
  rcases grounded id (List.mem_append_right _ member) mapping fed with placed | ⟨fate, settled⟩
  · refine (List.mem_append.mp placed).symm.imp_right fun early => ?_
    obtain ⟨node, found, _⟩ := pending.planned _ placed
    obtain ⟨world, settled⟩ := RunSetup.fate?_walk pending.front running early found
    exact ⟨_, settled⟩
  · refine Or.inr ⟨fate, ?_⟩
    have outside : mapping.source ∉ before := by
      intro early
      rw [pending.fresh _ (List.mem_append_left _ early)] at settled
      cases settled
    rw [(setup.walk_continues pending.front).kept _ outside]
    exact settled

theorem loss_of_lack (pending : state.Pending compiled (node.node :: rest))
    (grounded : state.Grounded compiled (node.node :: rest)) {source : NodeId}
    (decided : state.decision compiled node = .lack source) :
    ∃ mapping ∈ compiled.plan.inputsOf node.node, mapping.kind = .data ∧
      ∃ fate, state.ledger.fate? mapping.source = some fate ∧ fate.isLoss = true := by
  obtain ⟨mapping, member, data, absent, kept⟩ := lacking_of_lack decided
  refine ⟨mapping, member, data, ?_⟩
  obtain ⟨fate, settled⟩ := (grounded node.node List.mem_cons_self mapping member).resolve_left
    (pending.forward.head mapping member)
  refine ⟨fate, settled, ?_⟩
  rw [pending.agreed, settled] at absent
  rw [← Ledger.fate?_eq_branchSkipped_iff, settled] at kept
  cases fate with
  | branchSkipped => exact absurd rfl kept
  | dependencySkipped => rfl
  | finished outcome =>
      cases outcome with
      | ok output => simp [Fate.output?] at absent
      | error fault => rfl

theorem Unharmed.not_lack (unharmed : state.Unharmed)
    (pending : state.Pending compiled (node.node :: rest))
    (grounded : state.Grounded compiled (node.node :: rest)) (source : NodeId) :
    state.decision compiled node ≠ .lack source := by
  intro decided
  obtain ⟨mapping, _, _, fate, settled, loss⟩ := loss_of_lack pending grounded decided
  rw [unharmed _ _ settled] at loss
  contradiction

end RunState

namespace RunSetup

theorem isDeprived_settled (provided : ∀ source, state.decision compiled node ≠ .lack source) :
    (setup.settled (compiled.plan.inputsOf node.node) node state).1.isDeprived = false := by
  unfold RunState.decision at provided
  unfold settled
  cases decided : decideNode (compiled.plan.inputsOf node.node) state.context
      state.ledger.branchSkipped with
  | skip triggers => rfl
  | lack source => exact absurd decided (provided source)
  | run inputs =>
      have raised := setup.registry.attempt_ne_missingDependency node inputs state.world
      simp only [settle]
      cases attempted : (setup.registry.attempt node inputs state.world).1 with
      | ok output => rfl
      | error fault =>
          cases fault with
          | refusedInputs missing => rfl
          | missingDependency source => exact absurd attempted (raised source)
          | raised error => rfl

end RunSetup

namespace Orchestrator

theorem grounded_start {orchestrator : Orchestrator σ τ} {request : RunRequest}
    (compiles : request.workflow.compile = .ok compiled) (world : σ) (observer : τ) :
    (orchestrator.start request compiled world observer).Grounded compiled
      compiled.plan.order := by
  intro id placed mapping fed
  exact Or.inl (Workflow.source_placed compiles placed mapping fed)

theorem unharmed_start (orchestrator : Orchestrator σ τ) (request : RunRequest)
    (compiled : CompiledWorkflow) (world : σ) (observer : τ) :
    (orchestrator.start request compiled world observer).Unharmed := by
  intro id fate settled
  cases settled

end Orchestrator

end Flowline
