import Flowline.Proofs.Run.Invocation
import Flowline.Proofs.Run.Segment

/-!
What is noted along a walk, visit by visit: the decisions that are taken, and the processors that
are called together with what they reply.
-/

namespace Flowline

variable {σ τ β : Type}

/-- A processor at work for a node, and what it replies. -/
structure AnsweredCall where
  node : NodeId
  call : Call
  reply : Except RunError Output

def RunState.decision (compiled : CompiledWorkflow) (node : PlannedNode) (state : RunState σ τ) :
    Decision :=
  decideNode (compiled.plan.inputsOf node.node) state.context state.ledger.branchSkipped

namespace RunSetup

/-- What `note` has to say of each visit, in view of the state that the visit finds. -/
def trace (setup : RunSetup σ τ) (compiled : CompiledWorkflow)
    (note : PlannedNode → RunState σ τ → List β) : List NodeId → RunState σ τ → List β
  | [], _ => []
  | id :: rest, state =>
    match compiled.node? id with
    | none => trace setup compiled note rest state
    | some node =>
      let next := setup.visit (compiled.plan.inputsOf id) node state
      note node state ++ if next.ledger.isStopped then [] else trace setup compiled note rest next

def decisions (setup : RunSetup σ τ) (compiled : CompiledWorkflow) :
    List NodeId → RunState σ τ → List (NodeId × Decision) :=
  setup.trace compiled fun node state => [(node.node, state.decision compiled node)]

def answered? (setup : RunSetup σ τ) (node : PlannedNode) (decision : Decision) (world : σ) :
    Option AnsweredCall :=
  (setup.call? node world decision).bind fun call =>
    (setup.registry.processor? call.type).map fun processor =>
      ⟨node.node, call, (processor.process call.inputs call.config world).1⟩

def answeredCalls (setup : RunSetup σ τ) (compiled : CompiledWorkflow) :
    List NodeId → RunState σ τ → List AnsweredCall :=
  setup.trace compiled fun node state =>
    (setup.answered? node (state.decision compiled node) state.world).toList

variable {setup : RunSetup σ τ} {compiled : CompiledWorkflow} {state : RunState σ τ}
  {id : NodeId} {before after rest : List NodeId} {node : PlannedNode}

theorem trace_cons (setup : RunSetup σ τ) (note : PlannedNode → RunState σ τ → List β)
    (state : RunState σ τ) (rest : List NodeId) (found : compiled.node? id = some node) :
    setup.trace compiled note (id :: rest) state =
      note node state ++
        if (setup.visit (compiled.plan.inputsOf id) node state).ledger.isStopped then []
        else setup.trace compiled note rest
          (setup.visit (compiled.plan.inputsOf id) node state) := by
  rw [trace, found]

theorem trace_append (note : PlannedNode → RunState σ τ → List β) (after : List NodeId)
    (running : (setup.walk compiled before state).ledger.isStopped = false) :
    setup.trace compiled note (before ++ after) state =
      setup.trace compiled note before state ++
        setup.trace compiled note after (setup.walk compiled before state) := by
  induction before generalizing state with
  | nil => rfl
  | cons id before ih =>
      rw [List.cons_append]
      cases found : compiled.node? id with
      | none =>
          simp only [trace, walk, found] at running ⊢
          exact ih running
      | some node =>
          obtain ⟨going, goes⟩ := walk_cons_of_unstopped found running
          rw [goes] at running ⊢
          rw [setup.trace_cons note state _ found, setup.trace_cons note state _ found, going,
            if_neg Bool.false_ne_true, if_neg Bool.false_ne_true, ih running, List.append_assoc]

theorem map_trace (setup : RunSetup σ τ) (compiled : CompiledWorkflow) {γ : Type} (f : β → γ)
    (note : PlannedNode → RunState σ τ → List β) (rest : List NodeId) (state : RunState σ τ) :
    (setup.trace compiled note rest state).map f =
      setup.trace compiled (fun node state => (note node state).map f) rest state := by
  induction rest generalizing state with
  | nil => rfl
  | cons id rest ih =>
      cases found : compiled.node? id with
      | none =>
          simp only [trace, found]
          exact ih state
      | some node =>
          rw [trace_cons _ _ _ _ found, trace_cons _ _ _ _ found, List.map_append]
          congr 1
          split
          · rfl
          · exact ih _

theorem mem_trace {note : PlannedNode → RunState σ τ → List β} {item : β}
    (noted : item ∈ setup.trace compiled note rest state) :
    ∃ id ∈ rest, ∃ node next, compiled.node? id = some node ∧ item ∈ note node next := by
  induction rest generalizing state with
  | nil => simp [trace] at noted
  | cons id rest ih =>
      cases found : compiled.node? id with
      | none =>
          simp only [trace, found] at noted
          obtain ⟨later, member, rest⟩ := ih noted
          exact ⟨later, List.mem_cons_of_mem _ member, rest⟩
      | some node =>
          rw [setup.trace_cons note state rest found] at noted
          rcases List.mem_append.mp noted with here | later
          · exact ⟨id, List.mem_cons_self, node, state, found, here⟩
          · split at later
            · simp at later
            · obtain ⟨other, member, rest⟩ := ih later
              exact ⟨other, List.mem_cons_of_mem _ member, rest⟩

theorem node_of_answered? {decision : Decision} {world : σ} {made : AnsweredCall}
    (answered : setup.answered? node decision world = some made) : made.node = node.node := by
  obtain ⟨call, _, served⟩ := Option.bind_eq_some_iff.mp answered
  obtain ⟨processor, _, rfl⟩ := Option.map_eq_some_iff.mp served
  rfl

theorem mem_answeredCalls
    (planned : ∀ id ∈ rest, ∃ node, compiled.node? id = some node ∧ node.node = id)
    {made : AnsweredCall} (member : made ∈ setup.answeredCalls compiled rest state) :
    made.node ∈ rest := by
  obtain ⟨id, inside, node, next, found, noted⟩ := mem_trace member
  obtain ⟨_, foundToo, rfl⟩ := planned id inside
  cases found.symm.trans foundToo
  rw [node_of_answered? (Option.mem_toList.mp noted)]
  exact inside

theorem answered?_call (setup : RunSetup σ τ) (node : PlannedNode) (decision : Decision)
    (world : σ) :
    (setup.answered? node decision world).map (fun made => (made.node, made.call)) =
      (setup.call? node world decision).map (node.node, ·) := by
  cases called : setup.call? node world decision with
  | none => rw [answered?, called]; rfl
  | some call =>
      cases decision with
      | skip triggers => simp [call?] at called
      | lack source => simp [call?] at called
      | run inputs =>
          unfold call? at called
          cases registered : setup.registry.processor? node.type with
          | none => simp [registered] at called
          | some processor =>
              by_cases accepted : processor.accepts inputs world = true
              · simp only [registered, Option.bind_some, accepted, if_true] at called
                cases called
                simp [answered?, call?, registered, accepted]
              · simp [registered, accepted] at called

theorem calls_eq_answeredCalls (setup : RunSetup σ τ) (state : RunState σ τ)
    (planned : ∀ id ∈ rest, ∃ node, compiled.node? id = some node ∧ node.node = id) :
    setup.calls compiled rest state =
      (setup.answeredCalls compiled rest state).map fun made => (made.node, made.call) := by
  unfold answeredCalls
  induction rest generalizing state with
  | nil => rfl
  | cons id rest ih =>
      obtain ⟨node, found, rfl⟩ := planned id List.mem_cons_self
      have made := setup.answered?_call node (state.decision compiled node) state.world
      rw [trace_cons _ _ _ _ found, List.map_append, ← Option.toList_map, made]
      simp only [calls, found]
      rw [Option.toList_map]
      congr 1
      split
      · rfl
      · exact ih _ fun other member => planned other (List.mem_cons_of_mem _ member)

end RunSetup

namespace Orchestrator

variable {request : RunRequest} {compiled : CompiledWorkflow}

def decisions (orchestrator : Orchestrator σ τ) (request : RunRequest)
    (compiled : CompiledWorkflow) (world : σ) (observer : τ) : List (NodeId × Decision) :=
  (orchestrator.setup request.options).decisions compiled compiled.plan.order
    (orchestrator.start request compiled world observer)

def answeredCalls (orchestrator : Orchestrator σ τ) (request : RunRequest)
    (compiled : CompiledWorkflow) (world : σ) (observer : τ) : List AnsweredCall :=
  (orchestrator.setup request.options).answeredCalls compiled compiled.plan.order
    (orchestrator.start request compiled world observer)

/-- Under record, a run notes down the calls that its processors answer. -/
theorem orchestrate_recorded_answeredCalls (orchestrator : Orchestrator σ τ)
    (compiles : request.workflow.compile = .ok compiled) (world : σ) (observer : τ) :
    (orchestrator.recorded.orchestrate request (world, []) observer).2.1 =
      ((orchestrator.orchestrate request world observer).2.1,
        (orchestrator.answeredCalls request compiled world observer).map AnsweredCall.call) := by
  have noted := RunSetup.calls_eq_answeredCalls (orchestrator.setup request.options)
    (orchestrator.start request compiled world observer) (Workflow.planned_order compiles)
  rw [orchestrate_recorded compiles, calls, noted, List.map_map]
  rfl

end Orchestrator

end Flowline
