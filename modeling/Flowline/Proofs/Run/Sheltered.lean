import Flowline.Proofs.Run.Loss
import Flowline.Proofs.Run.Settings

/-!
Walks that go on only as long as no node fails. All that was settled before a visit is then either
on record or skipped with its branch, so no node lacks a dependency, and the settings make no
difference but for the failure that ends the walk.
-/

namespace Flowline

variable {σ τ β : Type} {setup : RunSetup σ τ} {settings : RunSettings}
  {compiled : CompiledWorkflow} {state : RunState σ τ} {id : NodeId} {rest : List NodeId}

namespace RunSetup

/-- So far nothing is lost, and a failure that the walk meets ends it. -/
structure Sheltered (setup : RunSetup σ τ) (compiled : CompiledWorkflow) (rest : List NodeId)
    (state : RunState σ τ) : Prop where
  pending : state.Pending compiled rest
  grounded : state.Grounded compiled rest
  unharmed : state.Unharmed
  running : state.ledger.isStopped = false
  halting : ∀ id ∈ rest, ∀ fate,
    (setup.walk compiled rest state).ledger.fate? id = some fate → fate.isFailure = true →
      setup.settings.continueOnError = false

/-- What the visit to `node` comes to: a failure, which ends the walk, or a state from which the
rest of the walk is as sheltered. -/
structure Sheltered.Visit (setup : RunSetup σ τ) (compiled : CompiledWorkflow) (node : PlannedNode)
    (rest : List NodeId) (state : RunState σ τ) : Prop extends
    setup.Visited compiled node rest state where
  provided : ∀ source, state.decision compiled node ≠ .lack source
  halts : (setup.settled (compiled.plan.inputsOf node.node) node state).1.isFailure = true →
    setup.settings.continueOnError = false ∧
      (setup.visit (compiled.plan.inputsOf node.node) node state).ledger.isStopped = true
  passes : (setup.settled (compiled.plan.inputsOf node.node) node state).1.isFailure = false →
    (setup.visit (compiled.plan.inputsOf node.node) node state).ledger.isStopped = false ∧
      setup.Sheltered compiled rest
        (setup.visit (compiled.plan.inputsOf node.node) node state)

theorem Sheltered.visit (sheltered : setup.Sheltered compiled (id :: rest) state) :
    ∃ node, compiled.node? id = some node ∧ node.node = id ∧
      Sheltered.Visit setup compiled node rest state := by
  obtain ⟨node, found, rfl, visited⟩ := setup.visited_of_pending sheltered.pending
  have provided := sheltered.unharmed.not_lack sheltered.pending sheltered.grounded
  refine ⟨node, found, rfl, visited, provided, ?_, ?_⟩
  · intro fails
    have strict := sheltered.halting node.node List.mem_cons_self _
      (fate?_head sheltered.pending visited found) fails
    refine ⟨strict, ?_⟩
    rw [isStopped_visit setup _ visited.fresh, isSome_stop?_iff.mpr ⟨strict, fails⟩, Bool.true_or]
  · intro passes
    have running : (setup.visit (compiled.plan.inputsOf node.node) node
        state).ledger.isStopped = false := by
      have goesOn : (setup.stop? node.node (setup.settled (compiled.plan.inputsOf node.node) node
          state).1).isSome = false := by
        rw [← Bool.not_eq_true, isSome_stop?_iff, passes]
        exact fun stops => Bool.false_ne_true stops.2
      rw [isStopped_visit setup _ visited.fresh, goesOn, Bool.false_or]
      exact sheltered.running
    have goes := setup.walk_cons state rest found
    rw [running, if_neg Bool.false_ne_true] at goes
    refine ⟨running, visited.pending, sheltered.grounded.tail visited, ?_, running, ?_⟩
    · intro other fate settled
      rw [setup.fate?_visit _ sheltered.pending.agreed
        (sheltered.pending.fresh node.node List.mem_cons_self)] at settled
      split at settled
      · cases settled
        exact Fate.isLoss_eq_false_iff.mpr ⟨passes, isDeprived_settled provided⟩
      · exact sheltered.unharmed other fate settled
    · intro other member fate settled
      exact sheltered.halting other (List.mem_cons_of_mem _ member) fate (goes ▸ settled)

variable (sheltered : setup.Sheltered compiled rest state)

include sheltered

theorem Sheltered.not_lack (source : NodeId) :
    (id, .lack source) ∉ setup.decisions compiled rest state := by
  unfold decisions
  induction rest generalizing state with
  | nil => simp [trace]
  | cons head rest ih =>
      obtain ⟨node, found, rfl, visited⟩ := sheltered.visit
      rw [trace_cons _ _ _ _ found, List.mem_append, List.mem_singleton, not_or]
      refine ⟨fun same => visited.provided source (Prod.mk.inj same).2.symm, ?_⟩
      cases fails : (setup.settled (compiled.plan.inputsOf node.node) node state).1.isFailure with
      | true =>
          rw [(visited.halts fails).2, if_pos rfl]
          exact List.not_mem_nil
      | false =>
          obtain ⟨running, next⟩ := visited.passes fails
          rw [running, if_neg Bool.false_ne_true]
          exact ih next

theorem Sheltered.not_deprived {fate : Fate}
    (settled : (setup.walk compiled rest state).ledger.fate? id = some fate) :
    fate.isDeprived = false := by
  induction rest generalizing state with
  | nil => exact (Fate.isLoss_eq_false_iff.mp (sheltered.unharmed id fate settled)).2
  | cons head rest ih =>
      obtain ⟨node, found, rfl, visited⟩ := sheltered.visit
      rw [walk_cons _ _ _ found] at settled
      cases fails : (setup.settled (compiled.plan.inputsOf node.node) node state).1.isFailure with
      | true =>
          rw [(visited.halts fails).2, if_pos rfl,
            setup.fate?_visit _ sheltered.pending.agreed
              (sheltered.pending.fresh node.node List.mem_cons_self)] at settled
          split at settled
          · cases settled
            exact isDeprived_settled visited.provided
          · exact (Fate.isLoss_eq_false_iff.mp (sheltered.unharmed id fate settled)).2
      | false =>
          obtain ⟨running, next⟩ := visited.passes fails
          rw [running, if_neg Bool.false_ne_true] at settled
          exact ih next settled

theorem Sheltered.unharmed_walk
    (passes : ∀ id ∈ rest, ∀ fate,
      (setup.walk compiled rest state).ledger.fate? id = some fate → fate.isFailure = false) :
    (setup.walk compiled rest state).Unharmed := by
  intro id fate settled
  refine Fate.isLoss_eq_false_iff.mpr ⟨?_, sheltered.not_deprived settled⟩
  by_cases member : id ∈ rest
  · exact passes id member fate settled
  · rw [(setup.walk_continues sheltered.pending).kept id member] at settled
    exact (Fate.isLoss_eq_false_iff.mp (sheltered.unharmed id fate settled)).1

variable (alike : setup.settings.continueOnError = false → settings.continueOnError = false)

include alike

/-- Other settings that end the walk at a failure, if these do, lead to the same walk. -/
theorem Sheltered.walk_withSettings :
    (setup.withSettings settings).walk compiled rest state = setup.walk compiled rest state := by
  induction rest generalizing state with
  | nil => rfl
  | cons head rest ih =>
      obtain ⟨node, found, rfl, visited⟩ := sheltered.visit
      have same := visit_withSettings visited.provided fun fails =>
        (alike (visited.halts fails).1).trans (visited.halts fails).1.symm
      rw [walk_cons _ _ _ found, walk_cons _ _ _ found, same]
      cases fails : (setup.settled (compiled.plan.inputsOf node.node) node state).1.isFailure with
      | true => rw [(visited.halts fails).2, if_pos rfl, if_pos rfl]
      | false =>
          obtain ⟨running, next⟩ := visited.passes fails
          rw [running, if_neg Bool.false_ne_true, if_neg Bool.false_ne_true]
          exact ih next

theorem Sheltered.trace_withSettings (note : PlannedNode → RunState σ τ → List β) :
    (setup.withSettings settings).trace compiled note rest state =
      setup.trace compiled note rest state := by
  induction rest generalizing state with
  | nil => rfl
  | cons head rest ih =>
      obtain ⟨node, found, rfl, visited⟩ := sheltered.visit
      have same := visit_withSettings visited.provided fun fails =>
        (alike (visited.halts fails).1).trans (visited.halts fails).1.symm
      rw [trace_cons _ _ _ _ found, trace_cons _ _ _ _ found, same]
      cases fails : (setup.settled (compiled.plan.inputsOf node.node) node state).1.isFailure with
      | true => rw [(visited.halts fails).2, if_pos rfl, if_pos rfl]
      | false =>
          obtain ⟨running, next⟩ := visited.passes fails
          rw [running, if_neg Bool.false_ne_true, if_neg Bool.false_ne_true]
          exact congrArg _ (ih next)

end RunSetup

end Flowline
