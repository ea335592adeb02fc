import Flowline.Proofs.Run.Walk

/-!
Walks in parts. A walk along a list is a walk along its front and, unless it was stopped there, one
along the rest. A walk that was stopped ends with the visit that stopped it.
-/

namespace Flowline

variable {σ τ : Type} {setup : RunSetup σ τ} {compiled : CompiledWorkflow} {state : RunState σ τ}
  {before after rest : List NodeId}

theorem FedFromFront.front (forward : FedFromFront compiled (before ++ after)) :
    FedFromFront compiled before := by
  intro first id last split mapping member inside
  have longer : before ++ after = first ++ id :: (last ++ after) := by
    rw [split, List.append_assoc, List.cons_append]
  refine forward first id (last ++ after) longer mapping member ?_
  rw [← List.cons_append]
  exact List.mem_append_left after inside

theorem FedFromFront.back (forward : FedFromFront compiled (before ++ after)) :
    FedFromFront compiled after := by
  intro first id last split
  exact forward (before ++ first) id last (by rw [split, List.append_assoc])

namespace RunState.Pending

theorem front (pending : state.Pending compiled (before ++ after)) :
    state.Pending compiled before where
  planned id member := pending.planned id (List.mem_append_left _ member)
  unique := pending.unique.of_append_left
  forward := pending.forward.front
  fresh id member := pending.fresh id (List.mem_append_left _ member)
  agreed := pending.agreed

theorem back (setup : RunSetup σ τ) (pending : state.Pending compiled (before ++ after)) :
    (setup.walk compiled before state).Pending compiled after := by
  have continued := setup.walk_continues pending.front
  refine ⟨?_, pending.unique.of_append_right, pending.forward.back, ?_, continued.agreed⟩
  · intro id member
    exact pending.planned id (List.mem_append_right _ member)
  · intro id member
    have apart : id ∉ before := fun early =>
      List.disjoint_of_nodup_append pending.unique early member
    rw [continued.kept id apart]
    exact pending.fresh id (List.mem_append_right _ member)

end RunState.Pending

namespace RunSetup

theorem walk_append (after : List NodeId)
    (running : (setup.walk compiled before state).ledger.isStopped = false) :
    setup.walk compiled (before ++ after) state =
      setup.walk compiled after (setup.walk compiled before state) := by
  induction before generalizing state with
  | nil => rfl
  | cons id before ih =>
      rw [List.cons_append]
      cases found : compiled.node? id with
      | none =>
          simp only [walk, found] at running ⊢
          exact ih running
      | some node =>
          obtain ⟨going, goes⟩ := walk_cons_of_unstopped found running
          rw [goes] at running ⊢
          rw [setup.walk_cons state (before ++ after) found, going]
          exact ih running

/-- A walk that is stopped along the front does not get to the rest. -/
theorem walk_append_of_stopped (after : List NodeId) (running : state.ledger.isStopped = false)
    (stopped : (setup.walk compiled before state).ledger.isStopped = true) :
    setup.walk compiled (before ++ after) state = setup.walk compiled before state := by
  induction before generalizing state with
  | nil =>
      rw [walk, running] at stopped
      contradiction
  | cons id before ih =>
      rw [List.cons_append]
      cases found : compiled.node? id with
      | none =>
          simp only [walk, found] at stopped ⊢
          exact ih running stopped
      | some node =>
          rw [setup.walk_cons state before found] at stopped ⊢
          rw [setup.walk_cons state (before ++ after) found]
          cases halted :
            (setup.visit (compiled.plan.inputsOf id) node state).ledger.isStopped with
          | true => rfl
          | false =>
              rw [halted, if_neg Bool.false_ne_true] at stopped
              exact ih halted stopped

/-- What every entry of a fate keeps is kept by a walk. -/
theorem walk_keeps (holds : RunState σ τ → Prop)
    (step : ∀ node fate next world observer, holds next →
      holds (setup.entered node fate next world observer))
    (pending : state.Pending compiled rest) (initially : holds state) :
    holds (setup.walk compiled rest state) := by
  induction rest generalizing state with
  | nil => exact initially
  | cons id rest ih =>
      obtain ⟨node, found, rfl, visited⟩ := setup.visited_of_pending pending
      obtain ⟨observer, entry⟩ :=
        setup.visit_eq (compiled.plan.inputsOf node.node) node state visited.fresh
      have kept : holds (setup.visit (compiled.plan.inputsOf node.node) node state) := by
        rw [entry]
        exact step _ _ _ _ _ initially
      rw [setup.walk_cons state rest found]
      split
      · exact kept
      · exact ih visited.pending kept

/-- What every entry keeps holds further on in a walk if it holds behind the front. -/
theorem walk_keeps_append (holds : RunState σ τ → Prop)
    (step : ∀ node fate next world observer, holds next →
      holds (setup.entered node fate next world observer))
    (pending : state.Pending compiled (before ++ after))
    (running : state.ledger.isStopped = false)
    (reached : holds (setup.walk compiled before state)) :
    holds (setup.walk compiled (before ++ after) state) := by
  cases stopped : (setup.walk compiled before state).ledger.isStopped with
  | true =>
      rw [walk_append_of_stopped after running stopped]
      exact reached
  | false =>
      rw [walk_append after stopped]
      exact walk_keeps holds step (pending.back setup) reached

theorem walk_stopped (pending : state.Pending compiled rest)
    (running : state.ledger.isStopped = false)
    (stopped : (setup.walk compiled rest state).ledger.isStopped = true) :
    ∃ before node after, rest = before ++ node.node :: after ∧
      compiled.node? node.node = some node ∧
      (setup.walk compiled before state).ledger.isStopped = false ∧
      setup.walk compiled rest state =
        setup.visit (compiled.plan.inputsOf node.node) node
          (setup.walk compiled before state) := by
  induction rest generalizing state with
  | nil =>
      rw [walk, running] at stopped
      contradiction
  | cons id rest ih =>
      obtain ⟨node, found, rfl, visited⟩ := setup.visited_of_pending pending
      have goes := setup.walk_cons state rest found
      cases halted :
        (setup.visit (compiled.plan.inputsOf node.node) node state).ledger.isStopped with
      | true =>
          rw [halted, if_pos rfl] at goes
          exact ⟨[], node, rest, rfl, found, running, goes⟩
      | false =>
          rw [halted, if_neg Bool.false_ne_true] at goes
          rw [goes] at stopped ⊢
          obtain ⟨before, last, after, rfl, foundLast, unstopped, ends⟩ :=
            ih visited.pending halted stopped
          have starts := setup.walk_cons state before found
          rw [halted, if_neg Bool.false_ne_true] at starts
          refine ⟨node.node :: before, last, after, rfl, foundLast, ?_, ?_⟩
          · rw [starts]
            exact unstopped
          · rw [starts]
            exact ends

/-- As long as failures are not tolerated, a walk that is not stopped meets none. -/
theorem not_failed_of_unstopped (strict : setup.settings.continueOnError = false)
    (pending : state.Pending compiled rest)
    (unstopped : (setup.walk compiled rest state).ledger.isStopped = false) :
    ∀ id ∈ rest, ∀ fate, (setup.walk compiled rest state).ledger.fate? id = some fate →
      fate.isFailure = false := by
  induction rest generalizing state with
  | nil => simp
  | cons first rest ih =>
      obtain ⟨node, found, rfl, visited⟩ := setup.visited_of_pending pending
      have headFate := fate?_head pending visited found
      obtain ⟨running, goes⟩ := walk_cons_of_unstopped found unstopped
      intro id member fate settled
      rcases List.mem_cons.mp member with rfl | later
      · cases headFate.symm.trans settled
        rw [isStopped_visit setup _ visited.fresh, Bool.or_eq_false_iff] at running
        by_contra fails
        rw [Bool.not_eq_false] at fails
        rw [isSome_stop?_iff.mpr ⟨strict, fails⟩] at running
        cases running.1
      · rw [goes] at unstopped settled
        exact ih visited.pending unstopped id later fate settled

end RunSetup

end Flowline
