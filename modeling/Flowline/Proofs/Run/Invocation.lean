import Flowline.Proofs.Run.Final

/-!
Which processors a run calls on what. The calls are collected along the walk, node by node; that
none is missed or made up shows in a registry whose processors note down every call.
-/

namespace Flowline

variable {σ τ : Type}

/-- A processor at work, under the type it is registered for. -/
structure Call where
  type : String
  inputs : Json.Object
  config : Json.Object
deriving DecidableEq

def Processor.recorded (type : String) (processor : Processor σ) :
    Processor (σ × List Call) where
  descriptor := processor.descriptor
  accepts := fun inputs state => processor.accepts inputs state.1
  process := fun inputs config state =>
    let (outcome, world) := processor.process inputs config state.1
    (outcome, world, state.2 ++ [⟨type, inputs, config⟩])

def Registry.recorded (registry : Registry σ) : Registry (σ × List Call) :=
  registry.map fun entry =>
    (entry.1, ⟨entry.2.descriptor, entry.2.processor.map (Processor.recorded entry.1)⟩)

theorem Registry.processor?_recorded (registry : Registry σ) (type : String) :
    registry.recorded.processor? type =
      (registry.processor? type).map (Processor.recorded type) := by
  unfold processor? recorded
  induction registry with
  | nil => rfl
  | cons entry rest ih =>
      obtain ⟨name, registration⟩ := entry
      rw [List.map_cons, Entries.get?, Entries.get?]
      by_cases same : name = type
      · subst same
        rw [if_pos rfl, if_pos rfl]
        rfl
      · rw [if_neg same, if_neg same]
        exact ih

def RunState.recorded (state : RunState σ τ) (calls : List Call) : RunState (σ × List Call) τ where
  context := state.context
  ledger := state.ledger
  world := (state.world, calls)
  observer := state.observer

@[simp] theorem RunState.recorded_context (state : RunState σ τ) (calls : List Call) :
    (state.recorded calls).context = state.context := rfl

@[simp] theorem RunState.recorded_ledger (state : RunState σ τ) (calls : List Call) :
    (state.recorded calls).ledger = state.ledger := rfl

namespace RunSetup

variable {setup : RunSetup σ τ} {compiled : CompiledWorkflow} {state : RunState σ τ}
  {id : NodeId} {rest : List NodeId} {node : PlannedNode}

def recorded (setup : RunSetup σ τ) : RunSetup (σ × List Call) τ where
  registry := setup.registry.recorded
  sink := setup.sink
  settings := setup.settings
  stamps := setup.stamps

/-- The call that a decision leads to: inputs go to a processor that accepts them. -/
def call? (setup : RunSetup σ τ) (node : PlannedNode) (world : σ) : Decision → Option Call
  | .run inputs =>
    (setup.registry.processor? node.type).bind fun processor =>
      if processor.accepts inputs world then
        some ⟨node.type, inputs, Json.Object.ofConfig node.config⟩
      else none
  | _ => none

/-- The calls made on a walk, each with the node that it is made for. -/
def calls (setup : RunSetup σ τ) (compiled : CompiledWorkflow) :
    List NodeId → RunState σ τ → List (NodeId × Call)
  | [], _ => []
  | id :: rest, state =>
    match compiled.node? id with
    | none => calls setup compiled rest state
    | some node =>
      let mappings := compiled.plan.inputsOf id
      let made := setup.call? node state.world
        (decideNode mappings state.context state.ledger.branchSkipped)
      let next := setup.visit mappings node state
      made.toList.map (id, ·) ++
        if next.ledger.isStopped then [] else calls setup compiled rest next

theorem enterResult_recorded (result : NodeResult) (log : List Call) :
    setup.recorded.enterResult result (state.recorded log) =
      (setup.enterResult result state).recorded log := by
  unfold enterResult
  cases result.outcome with
  | error fault => rfl
  | ok output =>
      simp only [recordSuccess, RunState.recorded]
      cases state.context.record result.node output <;> rfl

theorem runNode_recorded (inputs : Json.Object) (log : List Call) :
    setup.recorded.runNode node inputs (state.recorded log) =
      (setup.runNode node inputs state).recorded
        (log ++ (setup.call? node state.world (.run inputs)).toList) := by
  have attempted :
      setup.recorded.registry.attempt node inputs (state.world, log) =
        ((setup.registry.attempt node inputs state.world).1,
          (setup.registry.attempt node inputs state.world).2,
          log ++ (setup.call? node state.world (.run inputs)).toList) := by
    simp only [Registry.attempt, recorded, Registry.processor?_recorded, call?]
    cases setup.registry.processor? node.type with
    | none => simp
    | some processor =>
        cases accepted : processor.accepts inputs state.world <;>
          simp [Processor.recorded, accepted]
  rw [runNode_eq, runNode_eq, ← enterResult_recorded]
  simp only [RunState.recorded, notify] at attempted ⊢
  rw [attempted]
  rfl

theorem visit_recorded (mappings : List InputMapping) (log : List Call) :
    setup.recorded.visit mappings node (state.recorded log) =
      (setup.visit mappings node state).recorded
        (log ++ (setup.call? node state.world
          (decideNode mappings state.context state.ledger.branchSkipped)).toList) := by
  unfold visit
  rw [RunState.recorded_context, RunState.recorded_ledger]
  cases decideNode mappings state.context state.ledger.branchSkipped with
  | run inputs => exact runNode_recorded inputs log
  | skip triggers =>
      simp only [call?, Option.toList_none, List.append_nil]
      rfl
  | lack source =>
      simp only [lackDependency, recorded, call?, Option.toList_none, List.append_nil]
      cases setup.settings.missingDependency <;> rfl

/-- A walk under record is the same walk and notes down its calls. -/
theorem walk_recorded (setup : RunSetup σ τ) (state : RunState σ τ) (log : List Call) :
    setup.recorded.walk compiled rest (state.recorded log) =
      (setup.walk compiled rest state).recorded
        (log ++ (setup.calls compiled rest state).map Prod.snd) := by
  induction rest generalizing state log with
  | nil => rw [calls, List.map_nil, List.append_nil, walk, walk]
  | cons id rest ih =>
      cases found : compiled.node? id with
      | none =>
          simp only [walk, calls, found]
          exact ih state log
      | some node =>
          have noted (made : Option Call) :
              (made.toList.map fun call => (id, call)).map Prod.snd = made.toList := by
            cases made <;> rfl
          rw [walk_cons _ _ _ found, walk_cons _ _ _ found, visit_recorded,
            RunState.recorded_ledger]
          simp only [calls, found, List.map_append, noted]
          by_cases stopped :
            (setup.visit (compiled.plan.inputsOf id) node state).ledger.isStopped = true
          · rw [if_pos stopped, if_pos stopped, if_pos stopped, List.map_nil, List.append_nil]
          · rw [if_neg stopped, if_neg stopped, if_neg stopped, ih, List.append_assoc]

def callsFor (id : NodeId) (calls : List (NodeId × Call)) : List Call :=
  (calls.filter fun made => made.1 == id).map Prod.snd

theorem callsFor_append (id : NodeId) (first second : List (NodeId × Call)) :
    callsFor id (first ++ second) = callsFor id first ++ callsFor id second := by
  rw [callsFor, List.filter_append, List.map_append]
  rfl

theorem callsFor_visited (id other : NodeId) (made : Option Call) :
    callsFor id (made.toList.map (other, ·)) = if other = id then made.toList else [] := by
  cases made with
  | none => simp [callsFor]
  | some call => by_cases same : other = id <;> simp [callsFor, same]

theorem calls_cons (found : compiled.node? id = some node)
    (unstopped : (setup.walk compiled (id :: rest) state).ledger.isStopped = false) :
    setup.calls compiled (id :: rest) state =
      (setup.call? node state.world (decideNode (compiled.plan.inputsOf id) state.context
        state.ledger.branchSkipped)).toList.map (id, ·) ++
        setup.calls compiled rest (setup.visit (compiled.plan.inputsOf id) node state) := by
  obtain ⟨running, _⟩ := walk_cons_of_unstopped found unstopped
  simp only [calls, found, running, Bool.false_eq_true, if_false]

theorem callsFor_of_not_mem (pending : state.Pending compiled rest)
    (unstopped : (setup.walk compiled rest state).ledger.isStopped = false) (absent : id ∉ rest) :
    callsFor id (setup.calls compiled rest state) = [] := by
  induction rest generalizing state with
  | nil => rfl
  | cons first rest ih =>
      obtain ⟨node, found, rfl, visited⟩ := setup.visited_of_pending pending
      rw [List.mem_cons, not_or] at absent
      rw [calls_cons found unstopped, callsFor_append, callsFor_visited, if_neg (Ne.symm absent.1),
        List.nil_append]
      rw [(walk_cons_of_unstopped found unstopped).2] at unstopped
      exact ih visited.pending unstopped absent.2

/-- The state that the processors are in when it is the turn of a node. -/
def worldBefore (setup : RunSetup σ τ) (compiled : CompiledWorkflow) (id : NodeId)
    (rest : List NodeId) (state : RunState σ τ) : σ :=
  (setup.walk compiled (rest.takeWhile (· != id)) state).world

theorem worldBefore_head (id : NodeId) (rest : List NodeId) :
    setup.worldBefore compiled id (id :: rest) state = state.world := by
  rw [worldBefore, List.takeWhile_cons_of_neg (by simp), walk]

theorem worldBefore_cons {first : NodeId} (apart : first ≠ id)
    (found : compiled.node? first = some node)
    (running :
      (setup.visit (compiled.plan.inputsOf first) node state).ledger.isStopped = false) :
    setup.worldBefore compiled id (first :: rest) state =
      setup.worldBefore compiled id rest
        (setup.visit (compiled.plan.inputsOf first) node state) := by
  rw [worldBefore, List.takeWhile_cons_of_pos (by simpa using apart), walk_cons _ _ _ found,
    running, if_neg Bool.false_ne_true, worldBefore]

theorem callsFor_walk (pending : state.Pending compiled rest)
    (unstopped : (setup.walk compiled rest state).ledger.isStopped = false)
    (member : id ∈ rest) (found : compiled.node? id = some node) :
    callsFor id (setup.calls compiled rest state) =
      (setup.call? node (setup.worldBefore compiled id rest state)
        (decideNode (compiled.plan.inputsOf id) (setup.walk compiled rest state).context
          (setup.walk compiled rest state).ledger.branchSkipped)).toList := by
  induction rest generalizing state with
  | nil => simp at member
  | cons first rest ih =>
      obtain ⟨head, foundHead, rfl, visited⟩ := setup.visited_of_pending pending
      obtain ⟨running, goes⟩ := walk_cons_of_unstopped foundHead unstopped
      have outside := (List.nodup_cons.mp pending.unique).1
      rw [calls_cons foundHead unstopped, callsFor_append, callsFor_visited]
      rcases List.mem_cons.mp member with rfl | later
      · cases foundHead.symm.trans found
        rw [if_pos rfl, worldBefore_head, pending.decideNode_eq (setup.walk_continues pending)]
        rw [goes] at unstopped ⊢
        rw [callsFor_of_not_mem visited.pending unstopped outside, List.append_nil]
      · have apart : head.node ≠ id := fun same => outside (same ▸ later)
        rw [if_neg apart, List.nil_append, worldBefore_cons apart foundHead running]
        rw [goes] at unstopped ⊢
        exact ih visited.pending unstopped later

end RunSetup

namespace Orchestrator

variable {orchestrator : Orchestrator σ τ} {request : RunRequest} {compiled : CompiledWorkflow}
  {world : σ} {observer : τ}

def recorded (orchestrator : Orchestrator σ τ) : Orchestrator (σ × List Call) τ where
  registry := orchestrator.registry.recorded
  sink := orchestrator.sink
  defaults := orchestrator.defaults
  stamps := orchestrator.stamps

/-- The calls of a run, each with the node that it is made for. -/
def calls (orchestrator : Orchestrator σ τ) (request : RunRequest) (compiled : CompiledWorkflow)
    (world : σ) (observer : τ) : List (NodeId × Call) :=
  (orchestrator.setup request.options).calls compiled compiled.plan.order
    (orchestrator.start request compiled world observer)

/-- The state that the processors are in when it is the turn of a node. -/
def worldBefore (orchestrator : Orchestrator σ τ) (request : RunRequest)
    (compiled : CompiledWorkflow) (world : σ) (observer : τ) (id : NodeId) : σ :=
  (orchestrator.setup request.options).worldBefore compiled id compiled.plan.order
    (orchestrator.start request compiled world observer)

theorem orchestrate_recorded (compiles : request.workflow.compile = .ok compiled) :
    orchestrator.recorded.orchestrate request (world, []) observer =
      let run := orchestrator.orchestrate request world observer
      (run.1, (run.2.1, (orchestrator.calls request compiled world observer).map Prod.snd),
        run.2.2) := by
  have walked : orchestrator.recorded.final request compiled (world, []) observer =
      (orchestrator.final request compiled world observer).recorded
        ([] ++ (orchestrator.calls request compiled world observer).map Prod.snd) :=
    RunSetup.walk_recorded (orchestrator.setup request.options)
      (orchestrator.start request compiled world observer) []
  rw [orchestrate_compiled compiles, orchestrate_compiled compiles, walked]
  rfl

theorem callsFor_final (compiles : request.workflow.compile = .ok compiled)
    (unstopped : (orchestrator.final request compiled world observer).ledger.isStopped = false)
    {node : Workflow.Node} (declared : node ∈ request.workflow.nodes) :
    ∃ index, RunSetup.callsFor node.id (orchestrator.calls request compiled world observer) =
      ((orchestrator.setup request.options).call?
        (Workflow.plannedNode (Workflow.inputMappings request.workflow.resolvedEdges) index node)
        (orchestrator.worldBefore request compiled world observer node.id)
        (decideNode (compiled.plan.inputsOf node.id)
          (orchestrator.final request compiled world observer).context
          (orchestrator.final request compiled world observer).ledger.branchSkipped)).toList := by
  obtain ⟨index, found⟩ := Workflow.node?_compiled compiles declared
  have member : node.id ∈ compiled.plan.order :=
    (Workflow.mem_order compiles).mpr ⟨node, declared, rfl⟩
  exact ⟨index, RunSetup.callsFor_walk (pending_start compiles _ _) unstopped member found⟩

end Orchestrator

end Flowline
