import Flowline.Proofs.Plan.Routing
import Flowline.Proofs.Run.Decision
import Flowline.Proofs.Run.Fate

/-!
A walk settles its nodes one by one and leaves all others alone. The sources of a node are settled
before it and never again, so the decision about it is the one that the final state would lead to.
-/

namespace Flowline

variable {σ τ : Type} {setup : RunSetup σ τ} {compiled : CompiledWorkflow}

/-- The outputs on record are those of the nodes that have finished with one. -/
def RunState.Agreed (state : RunState σ τ) : Prop :=
  ∀ node, state.context.output? node = (state.ledger.fate? node).bind Fate.output?

theorem decideNode_of_agreed {σ' τ' : Type} {mappings : List InputMapping}
    {state : RunState σ τ} {other : RunState σ' τ'} (agreed : state.Agreed)
    (otherAgreed : other.Agreed)
    (sameData : state.context.initialData = other.context.initialData)
    (sameFates : ∀ mapping ∈ mappings,
      state.ledger.fate? mapping.source = other.ledger.fate? mapping.source) :
    decideNode mappings state.context state.ledger.branchSkipped =
      decideNode mappings other.context other.ledger.branchSkipped := by
  refine decideNode_congr sameData ?_ ?_ <;> intro mapping member
  · rw [agreed, otherAgreed, sameFates mapping member]
  · rw [← Ledger.fate?_eq_branchSkipped_iff, ← Ledger.fate?_eq_branchSkipped_iff,
      sameFates mapping member]

/-- What a walk along `rest` may rely on. -/
structure RunState.Pending (compiled : CompiledWorkflow) (rest : List NodeId)
    (state : RunState σ τ) : Prop where
  planned : ∀ id ∈ rest, ∃ node, compiled.node? id = some node ∧ node.node = id
  unique : rest.Nodup
  forward : FedFromFront compiled rest
  fresh : ∀ id ∈ rest, state.ledger.fate? id = none
  agreed : state.Agreed

/-- `next` comes of `state` by settling some of the nodes of `touched`. -/
structure RunState.Continues (touched : List NodeId) (state next : RunState σ τ) : Prop where
  agreed : next.Agreed
  workflowId : next.context.workflowId = state.context.workflowId
  pipelineId : next.context.pipelineId = state.context.pipelineId
  initialData : next.context.initialData = state.context.initialData
  kept : ∀ id, id ∉ touched → next.ledger.fate? id = state.ledger.fate? id

namespace RunState

variable {state next last : RunState σ τ} {id : NodeId} {rest : List NodeId} {node : PlannedNode}

theorem Continues.cons (first : state.Continues [id] next) (second : next.Continues rest last) :
    state.Continues (id :: rest) last where
  agreed := second.agreed
  workflowId := second.workflowId.trans first.workflowId
  pipelineId := second.pipelineId.trans first.pipelineId
  initialData := second.initialData.trans first.initialData
  kept := by
    intro other outside
    rw [List.mem_cons, not_or] at outside
    rw [second.kept other outside.2, first.kept other (by simpa using outside.1)]

theorem Pending.tail (pending : state.Pending compiled (id :: rest))
    (continued : state.Continues [id] next) : next.Pending compiled rest where
  planned other member := pending.planned other (List.mem_cons_of_mem _ member)
  unique := (List.nodup_cons.mp pending.unique).2
  forward := pending.forward.tail
  fresh := by
    intro other member
    have apart : other ∉ [id] := by
      rintro same
      rw [List.mem_singleton.mp same] at member
      exact (List.nodup_cons.mp pending.unique).1 member
    rw [continued.kept other apart]
    exact pending.fresh other (List.mem_cons_of_mem _ member)
  agreed := continued.agreed

/-- Nothing on the walk feeds its first node, so a later state decides about it as this one. -/
theorem Pending.decideNode_eq (pending : state.Pending compiled (id :: rest))
    (continued : state.Continues (id :: rest) last) :
    decideNode (compiled.plan.inputsOf id) state.context state.ledger.branchSkipped =
      decideNode (compiled.plan.inputsOf id) last.context last.ledger.branchSkipped := by
  refine decideNode_of_agreed pending.agreed continued.agreed continued.initialData.symm ?_
  intro mapping member
  exact (continued.kept _ (pending.forward.head mapping member)).symm

end RunState

namespace RunSetup

variable {state : RunState σ τ} {id : NodeId} {rest : List NodeId} {node : PlannedNode}

theorem fate?_visit (setup : RunSetup σ τ) (mappings : List InputMapping) (agreed : state.Agreed)
    (fresh : state.ledger.fate? node.node = none) (other : NodeId) :
    (setup.visit mappings node state).ledger.fate? other =
      if other = node.node then some (setup.settled mappings node state).1
      else state.ledger.fate? other := by
  obtain ⟨observer, visited⟩ := setup.visit_eq mappings node state (by rw [agreed, fresh]; rfl)
  rw [visited]
  exact Ledger.fate?_enter _ fresh other

theorem visit_continues (setup : RunSetup σ τ) (mappings : List InputMapping)
    (agreed : state.Agreed) (fresh : state.ledger.fate? node.node = none) :
    state.Continues [node.node] (setup.visit mappings node state) := by
  have absent : state.context.output? node.node = none := by rw [agreed, fresh]; rfl
  have fates := setup.fate?_visit mappings agreed fresh
  obtain ⟨observer, visited⟩ := setup.visit_eq mappings node state absent
  refine ⟨?_, ?_, ?_, ?_, ?_⟩
  · intro other
    rw [fates other, visited, entered, Context.output?_enter _ absent]
    split
    · rfl
    · exact agreed other
  · rw [visited, entered, Context.enter_workflowId]
  · rw [visited, entered, Context.enter_pipelineId]
  · rw [visited, entered, Context.enter_initialData]
  · intro other outside
    rw [fates other, if_neg (by simpa using outside)]

structure Visited (setup : RunSetup σ τ) (compiled : CompiledWorkflow) (node : PlannedNode)
    (rest : List NodeId) (state : RunState σ τ) : Prop where
  fresh : state.context.output? node.node = none
  continued : state.Continues [node.node]
    (setup.visit (compiled.plan.inputsOf node.node) node state)
  pending : (setup.visit (compiled.plan.inputsOf node.node) node state).Pending compiled rest
  settled : (setup.visit (compiled.plan.inputsOf node.node) node state).ledger.fate? node.node =
    some (setup.settled (compiled.plan.inputsOf node.node) node state).1

theorem visited_of_pending (setup : RunSetup σ τ) (pending : state.Pending compiled (id :: rest)) :
    ∃ node, compiled.node? id = some node ∧ node.node = id ∧
      setup.Visited compiled node rest state := by
  obtain ⟨node, found, rfl⟩ := pending.planned id List.mem_cons_self
  have fresh := pending.fresh node.node List.mem_cons_self
  have continued :=
    setup.visit_continues (compiled.plan.inputsOf node.node) pending.agreed fresh
  refine ⟨node, found, rfl, by rw [pending.agreed, fresh]; rfl, continued,
    pending.tail continued, ?_⟩
  rw [setup.fate?_visit _ pending.agreed fresh, if_pos rfl]

theorem walk_cons (setup : RunSetup σ τ) (state : RunState σ τ) (rest : List NodeId)
    (found : compiled.node? id = some node) :
    setup.walk compiled (id :: rest) state =
      if (setup.visit (compiled.plan.inputsOf id) node state).ledger.isStopped then
        setup.visit (compiled.plan.inputsOf id) node state
      else
        setup.walk compiled rest (setup.visit (compiled.plan.inputsOf id) node state) := by
  rw [walk, found]

theorem walk_cons_of_unstopped (found : compiled.node? id = some node)
    (unstopped : (setup.walk compiled (id :: rest) state).ledger.isStopped = false) :
    (setup.visit (compiled.plan.inputsOf id) node state).ledger.isStopped = false ∧
      setup.walk compiled (id :: rest) state =
        setup.walk compiled rest (setup.visit (compiled.plan.inputsOf id) node state) := by
  rw [setup.walk_cons state rest found] at unstopped ⊢
  by_cases stopped : (setup.visit (compiled.plan.inputsOf id) node state).ledger.isStopped = true
  · simp [stopped] at unstopped
  · simp [stopped]

theorem walk_continues (setup : RunSetup σ τ) (pending : state.Pending compiled rest) :
    state.Continues rest (setup.walk compiled rest state) := by
  induction rest generalizing state with
  | nil => exact ⟨pending.agreed, rfl, rfl, rfl, fun _ _ => rfl⟩
  | cons id rest ih =>
      obtain ⟨node, found, rfl, visited⟩ := setup.visited_of_pending pending
      have continued := visited.continued
      rw [setup.walk_cons state rest found]
      split
      -- Stopped: the rest of the walk is left untouched.
      · refine { continued with kept := fun other outside => continued.kept other ?_ }
        exact fun same => outside (List.mem_cons.mpr (Or.inl (List.mem_singleton.mp same)))
      · exact continued.cons (ih visited.pending)

theorem fate?_head (pending : state.Pending compiled (node.node :: rest))
    (visited : setup.Visited compiled node rest state)
    (found : compiled.node? node.node = some node) :
    (setup.walk compiled (node.node :: rest) state).ledger.fate? node.node =
      some (setup.settled (compiled.plan.inputsOf node.node) node state).1 := by
  rw [setup.walk_cons state rest found]
  split
  · exact visited.settled
  · rw [(setup.walk_continues visited.pending).kept _ (List.nodup_cons.mp pending.unique).1]
    exact visited.settled

theorem abort_walk (tolerant : setup.settings.continueOnError = true)
    (pending : state.Pending compiled rest) :
    (setup.walk compiled rest state).ledger.abort = state.ledger.abort := by
  induction rest generalizing state with
  | nil => rfl
  | cons id rest ih =>
      obtain ⟨node, found, rfl, visited⟩ := setup.visited_of_pending pending
      obtain ⟨observer, entry⟩ :=
        setup.visit_eq (compiled.plan.inputsOf node.node) node state visited.fresh
      have kept : (setup.visit (compiled.plan.inputsOf node.node) node state).ledger.abort =
          state.ledger.abort := by
        rw [entry, entered, stop?_eq_none setup tolerant, Option.none_or]
      rw [setup.walk_cons state rest found]
      split
      · exact kept
      · rw [ih visited.pending, kept]

theorem isStopped_walk (tolerant : setup.settings.continueOnError = true)
    (pending : state.Pending compiled rest) :
    (setup.walk compiled rest state).ledger.isStopped = state.ledger.isStopped :=
  congrArg Option.isSome (abort_walk tolerant pending)

/-- The decision was taken in `state`; no source of the node is visited from here on. -/
theorem fate?_head_final (pending : state.Pending compiled (node.node :: rest))
    (visited : setup.Visited compiled node rest state)
    (found : compiled.node? node.node = some node) :
    ∃ world, (setup.walk compiled (node.node :: rest) state).ledger.fate? node.node =
      some (setup.settle node world (decideNode (compiled.plan.inputsOf node.node)
        (setup.walk compiled (node.node :: rest) state).context
        (setup.walk compiled (node.node :: rest) state).ledger.branchSkipped)).1 := by
  refine ⟨state.world, ?_⟩
  rw [fate?_head pending visited found, ← pending.decideNode_eq (setup.walk_continues pending)]
  rfl

/-- The fate of every node is the one that the final state decides on. -/
theorem fate?_walk (pending : state.Pending compiled rest)
    (unstopped : (setup.walk compiled rest state).ledger.isStopped = false)
    (member : id ∈ rest) (found : compiled.node? id = some node) :
    ∃ world, (setup.walk compiled rest state).ledger.fate? id =
      some (setup.settle node world (decideNode (compiled.plan.inputsOf id)
        (setup.walk compiled rest state).context
        (setup.walk compiled rest state).ledger.branchSkipped)).1 := by
  induction rest generalizing state with
  | nil => simp at member
  | cons first rest ih =>
      obtain ⟨head, foundHead, rfl, visited⟩ := setup.visited_of_pending pending
      rcases List.mem_cons.mp member with rfl | later
      · cases foundHead.symm.trans found
        exact fate?_head_final pending visited found
      · obtain ⟨_, goes⟩ := walk_cons_of_unstopped foundHead unstopped
        rw [goes] at unstopped ⊢
        exact ih visited.pending unstopped later

/-- So is the fate of every node that a walk settles before it is stopped. -/
theorem fate?_walk_of_settled (pending : state.Pending compiled rest) {fate : Fate}
    (settled : (setup.walk compiled rest state).ledger.fate? id = some fate)
    (member : id ∈ rest) (found : compiled.node? id = some node) :
    ∃ world, fate =
      (setup.settle node world (decideNode (compiled.plan.inputsOf id)
        (setup.walk compiled rest state).context
        (setup.walk compiled rest state).ledger.branchSkipped)).1 := by
  induction rest generalizing state with
  | nil => simp at member
  | cons first rest ih =>
      obtain ⟨head, foundHead, rfl, visited⟩ := setup.visited_of_pending pending
      rcases List.mem_cons.mp member with rfl | later
      · cases foundHead.symm.trans found
        obtain ⟨world, decided⟩ := fate?_head_final pending visited found
        exact ⟨world, Option.some.inj (settled.symm.trans decided)⟩
      · rw [setup.walk_cons state rest foundHead] at settled ⊢
        split at settled
        -- Stopped at the head: the node is as unsettled as before.
        · rw [visited.pending.fresh id later] at settled
          cases settled
        · rename_i running
          rw [if_neg running]
          exact ih visited.pending settled later

end RunSetup

end Flowline
