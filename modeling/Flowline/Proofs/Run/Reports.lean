import Flowline.Proofs.Run.Accounts

/-!
What a run reports. Each visit reports its node as the fate of the node has it, and whatever the
sink answers and does with the events, the visit and all that comes after it are the same.
-/

namespace Flowline

variable {σ τ υ : Type}

namespace Sink

theorem feed_append (sink : Sink τ) (id : String) (first second : List RunEvent) (observer : τ) :
    sink.feed id (first ++ second) observer = sink.feed id second (sink.feed id first observer) :=
  List.foldl_append

/-- Answers as the sink does, and notes down what it is called with. -/
def recorded (sink : Sink τ) : Sink (τ × List (String × RunEvent)) where
  receive := fun id event state =>
    let (answer, observer) := sink.receive id event state.1
    (answer, observer, state.2 ++ [(id, event)])

theorem feed_recorded (sink : Sink τ) (id : String) (events : List RunEvent) (observer : τ)
    (log : List (String × RunEvent)) :
    sink.recorded.feed id events (observer, log) =
      (sink.feed id events observer, log ++ events.map (id, ·)) := by
  induction events generalizing observer log with
  | nil => rw [List.map_nil, List.append_nil]; rfl
  | cons event events ih => rw [List.map_cons, List.append_cons]; exact ih _ _

end Sink

/-- The events by which nodes are reported one after another. -/
def narration (reports : List (NodeId × List StatusUpdate)) : List RunEvent :=
  reports.flatMap fun report => report.2.map (.updated report.1)

theorem narration_cons (report : NodeId × List StatusUpdate)
    (reports : List (NodeId × List StatusUpdate)) :
    narration (report :: reports) = report.2.map (.updated report.1) ++ narration reports :=
  List.flatMap_cons

theorem mem_narration {reports : List (NodeId × List StatusUpdate)} {event : RunEvent} :
    event ∈ narration reports ↔
      ∃ report ∈ reports, ∃ update ∈ report.2, event = .updated report.1 update := by
  simp only [narration, List.mem_flatMap, List.mem_map, eq_comm]

/-- How a fate is reported. A node that does not run is reported once, any other before it runs and
after. -/
inductive Fate.Reported (policy : MissingDependencyPolicy) (stamps : Stamps) (node : PlannedNode) :
    Fate → List StatusUpdate → Prop
  | branchSkipped (triggers : List (NodeId × Option PortId)) :
      Reported policy stamps node .branchSkipped
        [.skipped node.type (TriggerDecision.inactiveReason triggers) stamps.timestamp]
  | dependencySkipped (source : NodeId) (skips : policy = .skip) :
      Reported policy stamps node .dependencySkipped
        [.skipped node.type (missingDependencyText source) stamps.timestamp]
  | deprived (source : NodeId) (fails : policy = .fail) :
      Reported policy stamps node (.finished (.error (.missingDependency source)))
        [.failed node.type (missingDependencyText source) stamps.timestamp]
  | completed (output : Output) :
      Reported policy stamps node (.finished (.ok output))
        [.running node.type stamps.timestamp,
          .completed node.type stamps.elapsedMs stamps.timestamp]
  | failed (fault : NodeFault) (own : ∀ source, fault ≠ .missingDependency source) :
      Reported policy stamps node (.finished (.error fault))
        [.running node.type stamps.timestamp,
          .failed node.type (fault.message node.node) stamps.timestamp]

namespace Fate.Reported

variable {policy : MissingDependencyPolicy} {stamps : Stamps} {node : PlannedNode} {fate : Fate}
  {updates : List StatusUpdate} (reported : fate.Reported policy stamps node updates)

include reported

theorem shape : updates.map StatusUpdate.status ∈
    [[.skipped], [.failed], [.running, .completed], [.running, .failed]] := by
  cases reported <;>
    simp [StatusUpdate.skipped, StatusUpdate.failed, StatusUpdate.running, StatusUpdate.completed]

theorem ends_skipped_iff :
    updates.getLast?.map StatusUpdate.status = some .skipped ↔ fate.isSkip = true := by
  cases reported <;>
    simp [StatusUpdate.skipped, StatusUpdate.failed, StatusUpdate.completed, isSkip]

theorem ends_failed_iff :
    updates.getLast?.map StatusUpdate.status = some .failed ↔ fate.isFailure = true := by
  cases reported <;>
    simp [StatusUpdate.skipped, StatusUpdate.failed, StatusUpdate.completed, isFailure]

theorem ends_completed_iff :
    updates.getLast?.map StatusUpdate.status = some .completed ↔
      ∃ outcome, fate = .finished outcome ∧ outcome.toBool = true := by
  cases reported <;>
    simp [StatusUpdate.skipped, StatusUpdate.failed, StatusUpdate.completed, Except.toBool]

theorem ends_with_error {result : NodeResult} (same : result.node = node.node)
    (finished : fate = .finished result.outcome) :
    updates.getLast?.bind StatusUpdate.error = result.error? := by
  unfold NodeResult.error?
  rw [same]
  cases reported with
  | branchSkipped => cases finished
  | dependencySkipped => cases finished
  | deprived => rw [← Fate.finished.inj finished]; rfl
  | completed => rw [← Fate.finished.inj finished]; rfl
  | failed => rw [← Fate.finished.inj finished]; rfl

/-- A failure is reported alone if and only if it is for want of a dependency. -/
theorem alone_iff :
    updates.map StatusUpdate.status = [.failed] ↔
      policy = .fail ∧ ∃ outcome, fate = .finished outcome ∧
        ∃ source, outcome = .error (.missingDependency source) := by
  cases reported with
  | failed fault own => simp [own]
  | deprived source fails =>
      simp [StatusUpdate.failed, fails]
  | _ => simp [StatusUpdate.skipped]

end Fate.Reported

namespace RunSetup

variable {setup : RunSetup σ τ} {compiled : CompiledWorkflow} {state : RunState σ τ}
  {rest : List NodeId}

theorem reported_settle (setup : RunSetup σ τ) (node : PlannedNode) (world : σ)
    (decision : Decision) :
    (setup.settle node world decision).1.Reported setup.settings.missingDependency
      setup.stamps node (setup.updates node world decision) := by
  cases decision with
  | skip triggers => exact .branchSkipped triggers
  | lack source =>
      unfold settle updates
      cases policy : setup.settings.missingDependency with
      | skip => exact .dependencySkipped source rfl
      | fail => exact .deprived source rfl
  | run inputs =>
      have raised := setup.registry.attempt_ne_missingDependency node inputs world
      simp only [settle, updates]
      cases attempted : (setup.registry.attempt node inputs world).1 with
      | ok output => exact .completed output
      | error fault => exact .failed fault fun source same => raised source (same ▸ attempted)

/-- The nodes that a walk gets to, each with what is reported of it. -/
def reports (setup : RunSetup σ τ) (compiled : CompiledWorkflow) :
    List NodeId → RunState σ τ → List (NodeId × List StatusUpdate) :=
  setup.trace compiled fun node state =>
    [(node.node, setup.updates node state.world (state.decision compiled node))]

theorem map_fst_reports (setup : RunSetup σ τ) (compiled : CompiledWorkflow) (rest : List NodeId)
    (state : RunState σ τ) :
    (setup.reports compiled rest state).map Prod.fst = setup.visited compiled rest state :=
  setup.map_trace compiled Prod.fst _ rest state

theorem reported_walk (pending : state.Pending compiled rest) :
    ∀ report ∈ setup.reports compiled rest state, ∃ node fate, node.node = report.1 ∧
      (setup.walk compiled rest state).ledger.fate? report.1 = some fate ∧
        fate.Reported setup.settings.missingDependency setup.stamps node report.2 := by
  induction rest generalizing state with
  | nil => simp [reports, trace]
  | cons id rest ih =>
      obtain ⟨node, found, rfl, visited⟩ := setup.visited_of_pending pending
      intro report member
      rw [reports, trace_cons _ _ _ _ found] at member
      rcases List.mem_append.mp member with here | later
      · cases List.mem_singleton.mp here
        exact ⟨node, _, rfl, fate?_head pending visited found,
          setup.reported_settle node state.world (state.decision compiled node)⟩
      · split at later
        · cases later
        · rename_i running
          rw [setup.walk_cons state rest found, if_neg running]
          exact ih visited.pending report later

def withSink (setup : RunSetup σ τ) (sink : Sink υ) : RunSetup σ υ where
  registry := setup.registry
  sink
  settings := setup.settings
  stamps := setup.stamps

end RunSetup

def RunState.observedBy (state : RunState σ τ) (observer : υ) : RunState σ υ where
  context := state.context
  ledger := state.ledger
  world := state.world
  observer

@[simp] theorem RunState.observedBy_ledger (state : RunState σ τ) (observer : υ) :
    (state.observedBy observer).ledger = state.ledger := rfl

namespace RunSetup

variable {setup : RunSetup σ τ} {compiled : CompiledWorkflow} {state : RunState σ τ}
  {rest : List NodeId} {node : PlannedNode}

theorem visit_withSink (mappings : List InputMapping) (sink : Sink υ) (watching : υ)
    (fresh : state.context.output? node.node = none) :
    (setup.withSink sink).visit mappings node (state.observedBy watching) =
      (setup.visit mappings node state).observedBy
        (sink.feed setup.stamps.id
          ((setup.updates node state.world
            (decideNode mappings state.context state.ledger.branchSkipped)).map
              (.updated node.node)) watching) := by
  rw [visit_reported _ _ _ _ fresh, visit_reported _ _ _ (state.observedBy watching) fresh]
  rfl

/-- Under another sink a walk is the same, and that sink is fed what the walk reports. -/
theorem walk_withSink (setup : RunSetup σ τ) (sink : Sink υ) (watching : υ)
    (pending : state.Pending compiled rest) :
    (setup.withSink sink).walk compiled rest (state.observedBy watching) =
      (setup.walk compiled rest state).observedBy
        (sink.feed setup.stamps.id (narration (setup.reports compiled rest state)) watching) := by
  induction rest generalizing state watching with
  | nil => rfl
  | cons id rest ih =>
      obtain ⟨node, found, rfl, visited⟩ := setup.visited_of_pending pending
      rw [walk_cons _ _ _ found, walk_cons _ _ _ found, reports, trace_cons _ _ _ _ found,
        List.singleton_append, narration_cons, Sink.feed_append,
        visit_withSink _ sink watching visited.fresh, RunState.observedBy_ledger]
      by_cases stopped : (setup.visit (compiled.plan.inputsOf node.node) node
          state).ledger.isStopped = true
      · rw [if_pos stopped, if_pos stopped, if_pos stopped]
        rfl
      · rw [if_neg stopped, if_neg stopped, if_neg stopped, ih _ visited.pending]
        rfl

end RunSetup

namespace Orchestrator

variable {orchestrator : Orchestrator σ τ} {request : RunRequest} {compiled : CompiledWorkflow}
  {world : σ} {observer : τ}

def withSink (orchestrator : Orchestrator σ τ) (sink : Sink υ) : Orchestrator σ υ where
  registry := orchestrator.registry
  sink
  defaults := orchestrator.defaults
  stamps := orchestrator.stamps

def reports (orchestrator : Orchestrator σ τ) (request : RunRequest) (compiled : CompiledWorkflow)
    (world : σ) (observer : τ) : List (NodeId × List StatusUpdate) :=
  (orchestrator.setup request.options).reports compiled compiled.plan.order
    (orchestrator.start request compiled world observer)

/-- All that a run reports. -/
def events (orchestrator : Orchestrator σ τ) (request : RunRequest) (world : σ) (observer : τ) :
    List RunEvent :=
  match request.workflow.compile with
  | .error _ => [.started (info request request.workflow.nodes.length), .finished .failed]
  | .ok compiled =>
    .started (info request compiled.nodeCount) ::
      (narration (orchestrator.reports request compiled world observer) ++
        [.finished (finalStatus (orchestrator.final request compiled world observer).ledger)])

theorem events_compiled (compiles : request.workflow.compile = .ok compiled) :
    orchestrator.events request world observer =
      .started (info request compiled.nodeCount) ::
        (narration (orchestrator.reports request compiled world observer) ++
          [.finished (orchestrator.orchestrate request world observer).1.status]) := by
  rw [orchestrate_compiled compiles, events, compiles]
  rfl

theorem final_withSink (orchestrator : Orchestrator σ τ)
    (compiles : request.workflow.compile = .ok compiled) (world : σ) (observer : τ) (sink : Sink υ)
    (watching : υ) :
    (orchestrator.withSink sink).final request compiled world watching =
      (orchestrator.final request compiled world observer).observedBy
        (sink.feed orchestrator.stamps.id
          (narration (orchestrator.reports request compiled world observer))
          (sink.feed orchestrator.stamps.id [.started (info request compiled.nodeCount)]
            watching)) :=
  (orchestrator.setup request.options).walk_withSink sink _ (pending_start compiles world observer)

/-- A run under another sink comes to the same response, and that sink is fed the same events. -/
theorem orchestrate_withSink (orchestrator : Orchestrator σ τ) (request : RunRequest) (world : σ)
    (observer : τ) (sink : Sink υ) (watching : υ) :
    (orchestrator.withSink sink).orchestrate request world watching =
      ((orchestrator.orchestrate request world observer).1,
        (orchestrator.orchestrate request world observer).2.1,
        sink.feed orchestrator.stamps.id (orchestrator.events request world observer)
          watching) := by
  cases compiles : request.workflow.compile with
  | error error =>
      rw [orchestrate, orchestrate, events, compiles]
      rfl
  | ok compiled =>
      rw [events_compiled compiles, ← List.singleton_append, Sink.feed_append, Sink.feed_append,
        orchestrate_compiled compiles, orchestrate_compiled compiles,
        orchestrator.final_withSink compiles world observer]
      rfl

end Orchestrator

end Flowline
