import Flowline.Proofs.Run.Reports
import Flowline.Proofs.Signal

/-!
Runs in which processors leave out their signals and only name the branches in the data field. What
is decided, recorded and reported is the same, but that a signal on record is the canonical one.
-/

namespace Flowline

variable {σ τ : Type}

namespace Context

def canonical (context : Context) : Context :=
  { context with outputs := Entries.mapValues Output.canonical context.outputs }

theorem output?_canonical (context : Context) (node : NodeId) :
    context.canonical.output? node = (context.output? node).map Output.canonical :=
  Entries.get?_mapValues _ _ _

end Context

section Decisions

open InputResolution (gather Gathered)

variable {mappings : List InputMapping} (context : Context) (branchSkipped : List NodeId)

theorem Signal.any_activates_canonical {port : Option PortId} (signal : Signal)
    (named : port ≠ some "") : port.any signal.canonical.activates = port.any signal.activates := by
  cases port with
  | none => rfl
  | some port =>
      exact signal.activates_canonical fun unnamed => named (congrArg some unnamed)

theorem InputMapping.isActive_canonical {mapping : InputMapping}
    (named : mapping.sourceOutput ≠ some "") :
    mapping.isActive context.canonical = mapping.isActive context := by
  unfold isActive
  rw [Context.output?_canonical]
  cases context.output? mapping.source with
  | none => rfl
  | some output =>
      obtain ⟨data, signal⟩ := output
      cases signal with
      | none => rfl
      | some signal => exact signal.any_activates_canonical named

theorem gather_canonical (mappings : List InputMapping) (gathered : Gathered) :
    gather context.canonical branchSkipped gathered mappings =
      gather context branchSkipped gathered mappings := by
  induction mappings generalizing gathered with
  | nil => rfl
  | cons mapping rest ih =>
      rw [gather, gather, Context.output?_canonical]
      cases context.output? mapping.source with
      | none => rw [Option.map_none, ih]
      | some output => exact ih _

theorem resolveInputs_canonical (mappings : List InputMapping) :
    resolveInputs mappings context.canonical branchSkipped =
      resolveInputs mappings context branchSkipped := by
  unfold resolveInputs
  cases mappings.filter InputMapping.isData with
  | nil => rfl
  | cons mapping rest => exact gather_canonical context branchSkipped _ _

theorem decideNode_canonical (named : ∀ mapping ∈ mappings, mapping.sourceOutput ≠ some "") :
    decideNode mappings context.canonical branchSkipped =
      decideNode mappings context branchSkipped := by
  have sameTriggers : evaluateTriggers mappings context.canonical =
      evaluateTriggers mappings context := evaluateTriggers_eq_of_isActive fun mapping member =>
    mapping.isActive_canonical context (named mapping member)
  rw [decideNode, decideNode, sameTriggers, resolveInputs_canonical]

end Decisions

def NodeResult.canonical (result : NodeResult) : NodeResult :=
  { result with outcome := result.outcome.map Output.canonical }

def Fate.canonical : Fate → Fate
  | .finished outcome => .finished (outcome.map Output.canonical)
  | fate => fate

def Ledger.canonical (ledger : Ledger) : Ledger :=
  { ledger with results := ledger.results.map NodeResult.canonical }

/-- The same state, but that every signal on record is the canonical one. -/
def RunState.canonical (state : RunState σ τ) : RunState σ τ :=
  { state with context := state.context.canonical, ledger := state.ledger.canonical }

def RunResponse.canonical (response : RunResponse) : RunResponse :=
  { response with results := response.results.map NodeResult.canonical }

theorem Context.canonical_enter (context : Context) (node : NodeId) (fate : Fate) :
    (context.enter node fate).canonical = context.canonical.enter node fate.canonical := by
  unfold enter
  cases fate with
  | branchSkipped => rfl
  | dependencySkipped => rfl
  | finished outcome =>
      cases outcome with
      | error fault => rfl
      | ok output =>
          have entered := Entries.mapValues_insert Output.canonical context.outputs node output
          simp only [Fate.output?, Fate.canonical, canonical, Except.map, entered]

theorem Ledger.canonical_enter (ledger : Ledger) (context : Context) (node : PlannedNode)
    (fate : Fate) :
    (ledger.enter context node fate).canonical =
      ledger.canonical.enter context.canonical node fate.canonical := by
  cases fate with
  | branchSkipped => rfl
  | dependencySkipped => rfl
  | finished outcome =>
      cases outcome <;>
        simp only [enter, Fate.canonical, canonical, fail, succeed, List.map_append] <;> rfl

/-- The second reply is the first one, or lacks the signal that its data field mirrors. -/
inductive SilencedReply : Except RunError Output → Except RunError Output → Prop
  | kept (reply : Except RunError Output) : SilencedReply reply reply
  | silenced {output : Output} {signal : Signal} (mirrors : output.Mirrors signal) :
      SilencedReply (.ok output) (.ok output.withoutSignal)

theorem SilencedReply.lifted {reply other : Except RunError Output}
    (silenced : SilencedReply reply other) :
    (other.map Output.liftSignal).map Output.canonical =
      (reply.map Output.liftSignal).map Output.canonical := by
  cases silenced with
  | kept => rfl
  | silenced mirrors =>
      simp only [Except.map, mirrors.liftSignal_withoutSignal, mirrors.liftSignal,
        Output.canonical_canonical]

structure Processor.Silenced (processor other : Processor σ) : Prop where
  descriptor : other.descriptor = processor.descriptor
  accepts : other.accepts = processor.accepts
  reply : ∀ inputs config world, SilencedReply
    (processor.process inputs config world).1 (other.process inputs config world).1
  world : ∀ inputs config world,
    (other.process inputs config world).2 = (processor.process inputs config world).2

def Registry.Silenced (registry other : Registry σ) : Prop :=
  ∀ type, Option.Rel Processor.Silenced (registry.processor? type) (other.processor? type)

theorem Registry.Silenced.attempt {registry other : Registry σ}
    (silenced : registry.Silenced other) (node : PlannedNode) (inputs : Json.Object)
    (world : σ) :
    (other.attempt node inputs world).1.map Output.canonical =
        (registry.attempt node inputs world).1.map Output.canonical ∧
      (other.attempt node inputs world).2 = (registry.attempt node inputs world).2 := by
  have raised (reply : Except RunError Output) :
      (reply.mapError NodeFault.raised).map Output.canonical =
        (reply.map Output.canonical).mapError NodeFault.raised := by
    cases reply <;> rfl
  have related := silenced node.type
  unfold Registry.attempt
  generalize registry.processor? node.type = first at related ⊢
  generalize other.processor? node.type = second at related ⊢
  cases related with
  | none => exact ⟨rfl, rfl⟩
  | some same =>
      simp only [same.accepts, same.descriptor]
      split
      · refine ⟨?_, same.world _ _ _⟩
        rw [raised, raised, (same.reply inputs (Json.Object.ofConfig node.config) world).lifted]
      · exact ⟨rfl, rfl⟩

namespace RunSetup

variable {setup : RunSetup σ τ} {registry : Registry σ} {compiled : CompiledWorkflow}
  {state other : RunState σ τ} {rest : List NodeId}

def withRegistry (setup : RunSetup σ τ) (registry : Registry σ) : RunSetup σ τ :=
  { setup with registry }

theorem stop?_canonical (setup : RunSetup σ τ) (node : NodeId) (fate : Fate) :
    setup.stop? node fate.canonical = setup.stop? node fate := by
  cases fate with
  | branchSkipped => rfl
  | dependencySkipped => rfl
  | finished outcome => cases outcome <;> rfl

theorem canonical_entered (setup : RunSetup σ τ) (node : PlannedNode) (fate : Fate)
    (state : RunState σ τ) (world : σ) (observer : τ) :
    (setup.entered node fate state world observer).canonical =
      setup.entered node fate.canonical state.canonical world observer := by
  have books := Ledger.canonical_enter state.ledger state.context node fate
  simp only [entered, RunState.canonical, Context.canonical_enter, stop?_canonical, ← books]
  rfl

theorem report_canonical (setup : RunSetup σ τ) (node : PlannedNode)
    (outcome : Except NodeFault Output) :
    setup.report node (outcome.map Output.canonical) = setup.report node outcome := by
  cases outcome <;> rfl

section Silenced

variable (silenced : setup.registry.Silenced registry)

include silenced

theorem settle_canonical (node : PlannedNode) (world : σ) (decision : Decision) :
    ((setup.withRegistry registry).settle node world decision).1.canonical =
        (setup.settle node world decision).1.canonical ∧
      ((setup.withRegistry registry).settle node world decision).2 =
        (setup.settle node world decision).2 := by
  cases decision with
  | skip triggers => exact ⟨rfl, rfl⟩
  | lack source => exact ⟨rfl, rfl⟩
  | run inputs =>
      obtain ⟨outcome, sameWorld⟩ := silenced.attempt node inputs world
      exact ⟨congrArg Fate.finished outcome, sameWorld⟩

theorem updates_withRegistry (node : PlannedNode) (world : σ) (decision : Decision) :
    (setup.withRegistry registry).updates node world decision =
      setup.updates node world decision := by
  cases decision with
  | skip triggers => rfl
  | lack source => rfl
  | run inputs =>
      have told := congrArg (setup.report node) (silenced.attempt node inputs world).1
      rw [report_canonical, report_canonical] at told
      exact congrArg (fun update => [StatusUpdate.running node.type setup.stamps.timestamp, update])
        told

theorem visit_canonical {node : PlannedNode} {mappings : List InputMapping}
    (named : ∀ mapping ∈ mappings, mapping.sourceOutput ≠ some "")
    (fresh : state.context.output? node.node = none)
    (otherFresh : other.context.output? node.node = none)
    (alike : other.canonical = state.canonical) :
    ((setup.withRegistry registry).visit mappings node other).canonical =
      (setup.visit mappings node state).canonical := by
  have decided : decideNode mappings other.context other.ledger.branchSkipped =
      decideNode mappings state.context state.ledger.branchSkipped := by
    rw [← decideNode_canonical other.context _ named, ← decideNode_canonical state.context _ named]
    exact congrArg
      (fun state => decideNode mappings state.context state.ledger.branchSkipped) alike
  have sameWorld : other.world = state.world := (congrArg RunState.world alike :)
  have sameObserver : other.observer = state.observer := (congrArg RunState.observer alike :)
  obtain ⟨fate, world⟩ := settle_canonical silenced node state.world
    (decideNode mappings state.context state.ledger.branchSkipped)
  rw [visit_reported _ _ _ _ fresh, visit_reported _ _ _ _ otherFresh, canonical_entered,
    canonical_entered, settled, settled, decided, sameWorld, sameObserver, fate, world, alike,
    updates_withRegistry silenced]
  rfl

theorem walk_canonical
    (named : ∀ id ∈ rest, ∀ mapping ∈ compiled.plan.inputsOf id,
      mapping.sourceOutput ≠ some "")
    (pending : state.Pending compiled rest) (otherPending : other.Pending compiled rest)
    (alike : other.canonical = state.canonical) :
    ((setup.withRegistry registry).walk compiled rest other).canonical =
      (setup.walk compiled rest state).canonical := by
  induction rest generalizing state other with
  | nil => exact alike
  | cons id rest ih =>
      obtain ⟨node, found, rfl, visited⟩ := setup.visited_of_pending pending
      obtain ⟨_, otherFound, _, otherVisited⟩ :=
        (setup.withRegistry registry).visited_of_pending otherPending
      cases found.symm.trans otherFound
      have next := visit_canonical silenced (named _ List.mem_cons_self) visited.fresh
        otherVisited.fresh alike
      have stopped := congrArg (fun state => state.ledger.isStopped) next
      change ((setup.withRegistry registry).visit _ node other).ledger.isStopped =
        (setup.visit _ node state).ledger.isStopped at stopped
      rw [walk_cons _ _ _ found, walk_cons _ _ _ found, stopped]
      split
      · exact next
      · exact ih (fun id member => named id (List.mem_cons_of_mem _ member)) visited.pending
          otherVisited.pending next

end Silenced

end RunSetup

/-- Answers as the processor does, but without the signal. -/
def Processor.withoutSignals (processor : Processor σ) : Processor σ :=
  { processor with
    process := fun inputs config world =>
      ((processor.process inputs config world).1.map Output.withoutSignal,
        (processor.process inputs config world).2) }

theorem Processor.silenced_withoutSignals {processor : Processor σ}
    (mirrors : ∀ inputs config world output,
      (processor.process inputs config world).1 = .ok output →
        ∃ signal, output.Mirrors signal) :
    processor.Silenced processor.withoutSignals where
  descriptor := rfl
  accepts := rfl
  reply := by
    intro inputs config world
    change SilencedReply _ (Except.map Output.withoutSignal _)
    cases replied : (processor.process inputs config world).1 with
    | error error => exact .kept _
    | ok output =>
        obtain ⟨signal, mirrored⟩ := mirrors inputs config world output replied
        exact .silenced mirrored
  world := fun _ _ _ => rfl

theorem Registry.Silenced.refl (registry : Registry σ) : registry.Silenced registry := by
  intro type
  cases registry.processor? type with
  | none => exact .none
  | some processor => exact .some ⟨rfl, rfl, fun _ _ _ => .kept _, fun _ _ _ => rfl⟩

theorem Registry.Silenced.register {registry other : Registry σ}
    {processor changed : Processor σ} (silenced : registry.Silenced other)
    (same : processor.Silenced changed) :
    (registry.register processor).Silenced (other.register changed) := by
  intro type
  rw [processor?, processor?, Registry.register, Registry.register, Entries.get?_insert,
    Entries.get?_insert, same.descriptor]
  split
  · exact .some same
  · exact silenced type

namespace Orchestrator

def withRegistry (orchestrator : Orchestrator σ τ) (registry : Registry σ) : Orchestrator σ τ :=
  { orchestrator with registry }

variable {orchestrator : Orchestrator σ τ} {registry : Registry σ} {request : RunRequest}
  {compiled : CompiledWorkflow}

theorem final_canonical (silenced : orchestrator.registry.Silenced registry)
    (compiles : request.workflow.compile = .ok compiled) (world : σ) (observer : τ) :
    ((orchestrator.withRegistry registry).final request compiled world observer).canonical =
      (orchestrator.final request compiled world observer).canonical :=
  (orchestrator.setup request.options).walk_canonical silenced
    (fun _ _ _ member => Workflow.sourceOutput_ne_empty compiles member)
    (pending_start compiles world observer) (pending_start compiles world observer) rfl

theorem orchestrate_canonical (silenced : orchestrator.registry.Silenced registry)
    (request : RunRequest) (world : σ) (observer : τ) :
    ((orchestrator.withRegistry registry).orchestrate request world observer).1.canonical =
        (orchestrator.orchestrate request world observer).1.canonical ∧
      ((orchestrator.withRegistry registry).orchestrate request world observer).2 =
        (orchestrator.orchestrate request world observer).2 := by
  cases compiles : request.workflow.compile with
  | error error =>
      rw [orchestrate, orchestrate, compiles]
      exact ⟨rfl, rfl⟩
  | ok compiled =>
      have alike := final_canonical silenced compiles world observer
      rw [orchestrate_compiled compiles, orchestrate_compiled compiles]
      constructor
      · exact congrArg (fun state : RunState σ τ =>
          RunResponse.ofLedger (finalStatus state.ledger) compiled.nodeCount state.ledger) alike
      · have left := congrArg (fun state : RunState σ τ =>
          (state.world, (orchestrator.setup request.options).emit
            (.finished (finalStatus state.ledger)) state.observer)) alike
        exact left

/-- A gateway selects the same trigger edges whether it puts out a signal or only the field that
mirrors it, and the run is the same, but for how the signal on record is written. -/
theorem orchestrate_silenced (orchestrator : Orchestrator σ τ) (request : RunRequest) (world : σ)
    (observer : τ) :
    (∀ (signal : Signal) (base : Output),
      let output := base.withSignal signal
      let lifted := output.withoutSignal.liftSignal
      lifted.data = output.data ∧ (∃ mirrored, lifted.signal = some mirrored) ∧
        ∀ workflow compiled, Workflow.compile workflow = .ok compiled →
          ∀ id, ∀ mapping ∈ compiled.plan.inputsOf id, ∀ given mirroring : Context,
            given.output? mapping.source = some output →
              mirroring.output? mapping.source = some lifted →
                mapping.isActive mirroring = mapping.isActive given) ∧
      ∀ registry, orchestrator.registry.Silenced registry →
        let run := orchestrator.orchestrate request world observer
        let other := (orchestrator.withRegistry registry).orchestrate request world observer
        other.1.canonical = run.1.canonical ∧ other.2 = run.2 := by
  constructor
  · intro signal base output lifted
    have mirrors : output.Mirrors signal := base.mirrors_withSignal signal
    have same : lifted = output.canonical := mirrors.liftSignal_withoutSignal
    refine ⟨?_, ⟨signal.canonical, ?_⟩, ?_⟩
    · rw [same]
      rfl
    · rw [same, Output.canonical, mirrors.given]
      rfl
    · intro workflow compiled compiles id mapping member given mirroring recorded mirrored
      have named := Workflow.sourceOutput_ne_empty compiles member
      rw [← mapping.isActive_canonical given named]
      refine InputMapping.isActive_congr ?_
      rw [mirrored, Context.output?_canonical, recorded, same]
      rfl
  · intro registry silenced
    exact orchestrate_canonical silenced request world observer

/-- Without its signals the gate still has the one branch taken and the other one skipped. -/
theorem orchestrate_silenced_forked :
    let quiet := gateways.withRegistry (Registry.empty.register booleanGateway.withoutSignals)
    gateways.registry.Silenced quiet.registry ∧
      (quiet.orchestrate forkedRequest () ()).1.canonical =
        (gateways.orchestrate forkedRequest () ()).1.canonical ∧
      (quiet.orchestrate forkedRequest () ()).1.skipped = ["no"] := by
  have silenced : gateways.registry.Silenced
      (Registry.empty.register booleanGateway.withoutSignals) := by
    refine (Registry.Silenced.refl _).register (Processor.silenced_withoutSignals ?_)
    intro inputs config world output replied
    cases replied
    exact ⟨_, Output.mirrors_withSignal _ _⟩
  refine ⟨silenced, ?_, by decide +kernel⟩
  exact ((orchestrate_silenced gateways forkedRequest () ()).2 _ silenced).1

end Orchestrator

end Flowline
