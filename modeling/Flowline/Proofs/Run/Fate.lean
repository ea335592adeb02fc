import Flowline.Proofs.Entries
import Flowline.Run.Walk
import Mathlib.Data.List.Basic

/-!
What becomes of a node. A visit settles the fate of the node from the decision that is taken, and
enters it into the books; it touches nothing else but the states of processors and sink.
-/

namespace Flowline

inductive Fate where
  | branchSkipped
  | dependencySkipped
  | finished (outcome : Except NodeFault Output)
deriving DecidableEq

namespace Fate

def outcome? : Fate → Option (Except NodeFault Output)
  | .finished outcome => some outcome
  | _ => none

def output? : Fate → Option Output
  | .finished (.ok output) => some output
  | _ => none

def isSkip : Fate → Bool
  | .finished _ => false
  | _ => true

def isFailure : Fate → Bool
  | .finished (.error _) => true
  | _ => false

theorem isFailure_iff {fate : Fate} :
    fate.isFailure = true ↔ ∃ fault, fate = .finished (.error fault) := by
  cases fate with
  | branchSkipped => simp [isFailure]
  | dependencySkipped => simp [isFailure]
  | finished outcome => cases outcome <;> simp [isFailure]

end Fate

def Context.enter (context : Context) (node : NodeId) (fate : Fate) : Context :=
  match fate.output? with
  | none => context
  | some output =>
    { context with
      outputs := Entries.insert context.outputs node output
      completed := context.completed ++ [node] }

namespace Ledger

def enter (ledger : Ledger) (context : Context) (node : PlannedNode) : Fate → Ledger
  | .branchSkipped => ledger.skipBranch node.node
  | .dependencySkipped => ledger.skipDependent node.node
  | .finished (.ok output) => ledger.succeed (.within context node.node node.type (.ok output))
  | .finished (.error fault) => ledger.fail (.within context node.node node.type (.error fault))

/-- What has become of a node so far. -/
def fate? (ledger : Ledger) (node : NodeId) : Option Fate :=
  if node ∈ ledger.branchSkipped then some .branchSkipped
  else if node ∈ ledger.skipped then some .dependencySkipped
  else (ledger.results.find? fun result => result.node == node).map fun result =>
    .finished result.outcome

theorem fate?_eq_branchSkipped_iff {ledger : Ledger} {node : NodeId} :
    ledger.fate? node = some .branchSkipped ↔ node ∈ ledger.branchSkipped := by
  unfold fate?
  split
  · rename_i member
    exact iff_of_true rfl member
  · rename_i absent
    refine iff_of_false ?_ absent
    split <;> simp

theorem fate?_eq_dependencySkipped_iff {ledger : Ledger} {node : NodeId} :
    ledger.fate? node = some .dependencySkipped ↔
      node ∈ ledger.skipped ∧ node ∉ ledger.branchSkipped := by
  unfold fate?
  by_cases branchSkipped : node ∈ ledger.branchSkipped
  · simp [branchSkipped]
  · by_cases skipped : node ∈ ledger.skipped <;> simp [branchSkipped, skipped]

theorem mem_skipped_of_fate? {ledger : Ledger} {node : NodeId}
    (settled : ledger.fate? node = some .dependencySkipped) : node ∈ ledger.skipped :=
  (fate?_eq_dependencySkipped_iff.mp settled).1

theorem exists_result_of_fate? {ledger : Ledger} {node : NodeId}
    {outcome : Except NodeFault Output} (settled : ledger.fate? node = some (.finished outcome)) :
    node ∉ ledger.skipped ∧
      ∃ result ∈ ledger.results, result.node = node ∧ result.outcome = outcome := by
  by_cases branchSkipped : node ∈ ledger.branchSkipped
  · simp [fate?, branchSkipped] at settled
  · by_cases skipped : node ∈ ledger.skipped
    · simp [fate?, branchSkipped, skipped] at settled
    · rw [fate?, if_neg branchSkipped, if_neg skipped, Option.map_eq_some_iff] at settled
      obtain ⟨result, found, same⟩ := settled
      have sameNode := List.find?_some found
      exact ⟨skipped, result, List.mem_of_find?_eq_some found, eq_of_beq sameNode,
        Fate.finished.inj same⟩

theorem fate?_enter {ledger : Ledger} {context : Context} {node : PlannedNode} (fate : Fate)
    (fresh : ledger.fate? node.node = none) (other : NodeId) :
    (ledger.enter context node fate).fate? other =
      if other = node.node then some fate else ledger.fate? other := by
  unfold fate? at fresh
  split_ifs at fresh with branchSkipped skipped
  rw [Option.map_eq_none_iff] at fresh
  by_cases same : other = node.node
  · subst same
    rw [if_pos rfl]
    cases fate with
    | branchSkipped => simp [fate?, enter, skipBranch]
    | dependencySkipped => simp [fate?, enter, skipDependent, branchSkipped]
    | finished outcome =>
        cases outcome <;>
          simp [fate?, enter, succeed, fail, branchSkipped, skipped, fresh, NodeResult.within]
  · rw [if_neg same]
    have apart : (node.node == other) = false := by simpa using Ne.symm same
    cases fate with
    | branchSkipped => simp [fate?, enter, skipBranch, same]
    | dependencySkipped => simp [fate?, enter, skipDependent, same]
    | finished outcome =>
        cases outcome <;> simp [fate?, enter, succeed, fail, apart, NodeResult.within]

end Ledger

namespace Context

@[simp] theorem enter_initialData (context : Context) (node : NodeId) (fate : Fate) :
    (context.enter node fate).initialData = context.initialData := by
  unfold enter
  split <;> rfl

@[simp] theorem enter_workflowId (context : Context) (node : NodeId) (fate : Fate) :
    (context.enter node fate).workflowId = context.workflowId := by
  unfold enter
  split <;> rfl

@[simp] theorem enter_pipelineId (context : Context) (node : NodeId) (fate : Fate) :
    (context.enter node fate).pipelineId = context.pipelineId := by
  unfold enter
  split <;> rfl

theorem output?_enter {context : Context} {node : NodeId} (fate : Fate)
    (fresh : context.output? node = none) (other : NodeId) :
    (context.enter node fate).output? other =
      if other = node then fate.output? else context.output? other := by
  unfold enter
  cases fate.output? with
  | none =>
      by_cases same : other = node
      · rw [if_pos same, same]
        exact fresh
      · rw [if_neg same]
  | some output => simp only [output?, Entries.get?_insert, eq_comm]

end Context

variable {σ τ : Type}

/-- What an attempt to run a node comes to, and the state that it leaves the processors in. -/
def Registry.attempt (registry : Registry σ) (node : PlannedNode) (inputs : Json.Object)
    (world : σ) : Except NodeFault Output × σ :=
  match registry.processor? node.type with
  | none => (.error (.raised (.unknownNodeType node.node node.type)), world)
  | some processor =>
    if processor.accepts inputs world then
      let (outcome, world) := processor.process inputs (Json.Object.ofConfig node.config) world
      ((outcome.map Output.liftSignal).mapError .raised, world)
    else (.error (.refusedInputs (processor.descriptor.missingInputs inputs)), world)

/-- The state of a sink that has received the events one after another. -/
def Sink.feed (sink : Sink τ) (id : String) (events : List RunEvent) (observer : τ) : τ :=
  events.foldl (fun observer event => (sink.receive id event observer).2) observer

namespace RunSetup

def settle (setup : RunSetup σ τ) (node : PlannedNode) (world : σ) : Decision → Fate × σ
  | .skip _ => (.branchSkipped, world)
  | .lack source =>
    match setup.settings.missingDependency with
    | .skip => (.dependencySkipped, world)
    | .fail => (.finished (.error (.missingDependency source)), world)
  | .run inputs =>
    let (outcome, world) := setup.registry.attempt node inputs world
    (.finished outcome, world)

def stop? (setup : RunSetup σ τ) (node : NodeId) : Fate → Option RunFault
  | .finished (.error fault) =>
    if setup.settings.continueOnError then none
    else some (.nodeFailed node (fault.message node))
  | _ => none

theorem stop?_eq_none (setup : RunSetup σ τ) (tolerant : setup.settings.continueOnError = true)
    (node : NodeId) (fate : Fate) : setup.stop? node fate = none := by
  unfold stop?
  split
  · rw [if_pos tolerant]
  · rfl

theorem isSome_stop?_iff {setup : RunSetup σ τ} {node : NodeId} {fate : Fate} :
    (setup.stop? node fate).isSome = true ↔
      setup.settings.continueOnError = false ∧ fate.isFailure = true := by
  cases fate with
  | branchSkipped => simp [stop?, Fate.isFailure]
  | dependencySkipped => simp [stop?, Fate.isFailure]
  | finished outcome =>
      cases outcome with
      | ok output => simp [stop?, Fate.isFailure]
      | error fault =>
          cases strict : setup.settings.continueOnError <;> simp [stop?, Fate.isFailure, strict]

def settled (setup : RunSetup σ τ) (mappings : List InputMapping) (node : PlannedNode)
    (state : RunState σ τ) : Fate × σ :=
  setup.settle node state.world (decideNode mappings state.context state.ledger.branchSkipped)

/-- The state once the fate of a node is in the books. -/
def entered (setup : RunSetup σ τ) (node : PlannedNode) (fate : Fate) (state : RunState σ τ)
    (world : σ) (observer : τ) : RunState σ τ where
  context := state.context.enter node.node fate
  ledger :=
    { state.ledger.enter state.context node fate with
      abort := (setup.stop? node.node fate).or state.ledger.abort }
  world
  observer

def report (setup : RunSetup σ τ) (node : PlannedNode) : Except NodeFault Output → StatusUpdate
  | .ok _ => .completed node.type setup.stamps.elapsedMs setup.stamps.timestamp
  | .error fault => .failed node.type (fault.message node.node) setup.stamps.timestamp

/-- What is reported of a node while a decision about it is carried out. -/
def updates (setup : RunSetup σ τ) (node : PlannedNode) (world : σ) :
    Decision → List StatusUpdate
  | .skip triggers =>
    [.skipped node.type (TriggerDecision.inactiveReason triggers) setup.stamps.timestamp]
  | .lack source =>
    match setup.settings.missingDependency with
    | .skip => [.skipped node.type (missingDependencyText source) setup.stamps.timestamp]
    | .fail => [setup.report node (.error (.missingDependency source))]
  | .run inputs =>
    [.running node.type setup.stamps.timestamp,
      setup.report node (setup.registry.attempt node inputs world).1]

theorem enterResult_eq (setup : RunSetup σ τ) (node : PlannedNode) (state : RunState σ τ)
    (outcome : Except NodeFault Output) (fresh : state.context.output? node.node = none) :
    setup.enterResult (.within state.context node.node node.type outcome) state =
      setup.entered node (.finished outcome) state state.world
        (setup.emit (.updated node.node (setup.report node outcome)) state.observer) := by
  cases outcome with
  | error fault =>
      simp only [enterResult, recordFailure, entered, stop?]
      cases setup.settings.continueOnError <;> rfl
  | ok output =>
      have absent : state.context.hasOutput node.node = false :=
        Entries.has_eq_false_iff.mpr fresh
      simp only [enterResult, NodeResult.within, recordSuccess, Context.record, absent,
        Bool.false_eq_true, if_false]
      rfl

theorem runNode_eq (setup : RunSetup σ τ) (node : PlannedNode) (inputs : Json.Object)
    (state : RunState σ τ) :
    setup.runNode node inputs state =
      setup.enterResult
        (.within state.context node.node node.type
          (setup.registry.attempt node inputs state.world).1)
        { setup.notify node.node (.running node.type setup.stamps.timestamp) state with
          world := (setup.registry.attempt node inputs state.world).2 } := by
  simp only [runNode, Registry.executeNode, Registry.attempt, notify]
  cases setup.registry.processor? node.type with
  | none => rfl
  | some processor =>
      cases accepted : processor.accepts inputs state.world with
      | false => simp [accepted]
      | true =>
          simp only [accepted, if_true]
          cases (processor.process inputs (Json.Object.ofConfig node.config) state.world).1 <;> rfl

/-- All that a visit does, for a node without an output. -/
theorem visit_reported (setup : RunSetup σ τ) (mappings : List InputMapping) (node : PlannedNode)
    (state : RunState σ τ) (fresh : state.context.output? node.node = none) :
    setup.visit mappings node state =
      setup.entered node (setup.settled mappings node state).1 state
        (setup.settled mappings node state).2
        (setup.sink.feed setup.stamps.id
          ((setup.updates node state.world
            (decideNode mappings state.context state.ledger.branchSkipped)).map
              (.updated node.node)) state.observer) := by
  unfold visit settled
  cases decideNode mappings state.context state.ledger.branchSkipped with
  | skip triggers => rfl
  | lack source =>
      simp only [lackDependency, settle, updates]
      cases setup.settings.missingDependency with
      | skip => rfl
      | fail => exact setup.enterResult_eq node state (.error (.missingDependency source)) fresh
  | run inputs =>
      simp only [runNode_eq]
      exact setup.enterResult_eq node
        { setup.notify node.node (.running node.type setup.stamps.timestamp) state with
          world := (setup.registry.attempt node inputs state.world).2 }
        (setup.registry.attempt node inputs state.world).1 fresh

theorem visit_eq (setup : RunSetup σ τ) (mappings : List InputMapping) (node : PlannedNode)
    (state : RunState σ τ) (fresh : state.context.output? node.node = none) :
    ∃ observer,
      setup.visit mappings node state =
        setup.entered node (setup.settled mappings node state).1 state
          (setup.settled mappings node state).2 observer :=
  ⟨_, setup.visit_reported mappings node state fresh⟩

theorem isStopped_visit (setup : RunSetup σ τ) (mappings : List InputMapping) {node : PlannedNode}
    {state : RunState σ τ} (fresh : state.context.output? node.node = none) :
    (setup.visit mappings node state).ledger.isStopped =
      ((setup.stop? node.node (setup.settled mappings node state).1).isSome ||
        state.ledger.isStopped) := by
  obtain ⟨observer, entry⟩ := setup.visit_eq mappings node state fresh
  rw [entry, Ledger.isStopped, entered, Option.isSome_or]
  rfl

theorem isStopped_visit_of_tolerant (setup : RunSetup σ τ)
    (tolerant : setup.settings.continueOnError = true) (mappings : List InputMapping)
    {node : PlannedNode} {state : RunState σ τ} (fresh : state.context.output? node.node = none) :
    (setup.visit mappings node state).ledger.isStopped = state.ledger.isStopped := by
  rw [isStopped_visit setup mappings fresh, stop?_eq_none setup tolerant, Option.isSome_none,
    Bool.false_or]

end RunSetup

end Flowline
