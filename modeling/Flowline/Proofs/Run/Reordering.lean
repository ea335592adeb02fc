import Flowline.Proofs.Plan.Acceptance
import Flowline.Proofs.Run.Final

/-!
Declaring the nodes of a workflow in another order changes the order of a run, but not what becomes
of a node, as long as processors go by their inputs and configuration and failures are tolerated.
-/

namespace Flowline

variable {σ τ : Type}

/-- Whether the processor accepts its inputs depends on them alone, and what it makes of them on
them and the configuration. -/
structure Processor.Functional (processor : Processor σ) : Prop where
  accepts : ∀ inputs world other, processor.accepts inputs world = processor.accepts inputs other
  process : ∀ inputs config world other,
    (processor.process inputs config world).1 = (processor.process inputs config other).1

def Registry.Functional (registry : Registry σ) : Prop :=
  ∀ type processor, registry.processor? type = some processor → processor.Functional

theorem Registry.processor?_register (registry : Registry σ) (processor : Processor σ)
    (type : String) :
    (registry.register processor).processor? type =
      if processor.descriptor.type = type then some processor else registry.processor? type := by
  rw [processor?, register, Entries.get?_insert]
  split <;> rfl

theorem Registry.functional_empty : (Registry.empty : Registry σ).Functional := by
  intro type processor registered
  cases registered

theorem Registry.Functional.register {registry : Registry σ} (functional : registry.Functional)
    {processor : Processor σ} (determined : processor.Functional) :
    (registry.register processor).Functional := by
  intro type other registered
  rw [processor?_register] at registered
  split at registered
  · cases registered
    exact determined
  · exact functional type other registered

namespace RunSetup

variable {setup : RunSetup σ τ} {node other : PlannedNode}

theorem attempt_congr {registry : Registry σ} (functional : registry.Functional)
    (sameNode : node.node = other.node) (sameType : node.type = other.type)
    (sameConfig : node.config = other.config) (inputs : Json.Object) (world otherWorld : σ) :
    (registry.attempt node inputs world).1 = (registry.attempt other inputs otherWorld).1 := by
  simp only [Registry.attempt, sameNode, sameType, sameConfig]
  cases found : registry.processor? other.type with
  | none => rfl
  | some processor =>
      obtain ⟨accepts, process⟩ := functional _ _ found
      simp only [accepts inputs world otherWorld]
      split
      · rw [process inputs _ world otherWorld]
      · rfl

theorem settle_congr (functional : setup.registry.Functional) (sameNode : node.node = other.node)
    (sameType : node.type = other.type) (sameConfig : node.config = other.config)
    (decision : Decision) (world otherWorld : σ) :
    (setup.settle node world decision).1 = (setup.settle other otherWorld decision).1 := by
  cases decision with
  | skip triggers => rfl
  | lack source =>
      simp only [settle]
      cases setup.settings.missingDependency <;> rfl
  | run inputs =>
      simp only [settle]
      rw [attempt_congr functional sameNode sameType sameConfig inputs world otherWorld]

end RunSetup

namespace Workflow

def withNodes (workflow : Workflow) (nodes : List Node) : Workflow := { workflow with nodes }

variable {workflow : Workflow} {nodes : List Node}

theorem Sound.perm {left right : List Node} (sound : Sound left) (perm : right.Perm left) :
    Sound right where
  typed node member := sound.typed node (perm.mem_iff.mp member)
  unique := (perm.map Node.id).nodup_iff.mpr sound.unique

theorem exists_compile_withNodes (workflow : Workflow) (reordered : nodes.Perm workflow.nodes)
    (compiles : ∃ compiled, workflow.compile = .ok compiled) :
    ∃ compiled, (workflow.withNodes nodes).compile = .ok compiled := by
  obtain ⟨sound, closed, acyclic⟩ := exists_compile_iff.mp compiles
  have sameIds (id : NodeId) : id ∈ (workflow.withNodes nodes).nodeIds ↔ id ∈ workflow.nodeIds :=
    (reordered.map Node.id).mem_iff
  refine exists_compile_iff.mpr ⟨sound.perm reordered, ?_, acyclic⟩
  intro edge member
  rw [sameIds, sameIds]
  exact closed edge member

theorem exists_compile_withNodes_iff (reordered : nodes.Perm workflow.nodes) :
    (∃ compiled, (workflow.withNodes nodes).compile = .ok compiled) ↔
      ∃ compiled, workflow.compile = .ok compiled :=
  ⟨exists_compile_withNodes (workflow.withNodes nodes) reordered.symm,
    exists_compile_withNodes workflow reordered⟩

end Workflow

def RunRequest.withNodes (request : RunRequest) (nodes : List Workflow.Node) : RunRequest :=
  { request with workflow := request.workflow.withNodes nodes }

namespace Orchestrator

variable {orchestrator : Orchestrator σ τ} {request : RunRequest} {nodes : List Workflow.Node}
  {compiled otherCompiled : CompiledWorkflow} {world otherWorld : σ} {observer otherObserver : τ}

theorem inputsOf_withNodes (compiles : request.workflow.compile = .ok compiled)
    (otherCompiles : (request.withNodes nodes).workflow.compile = .ok otherCompiled)
    (id : NodeId) : otherCompiled.plan.inputsOf id = compiled.plan.inputsOf id := by
  rw [Workflow.inputsOf_compiled compiles, Workflow.inputsOf_compiled otherCompiles]
  rfl

/-- Nodes that are declared in both workflows fare the same in both, if what feeds them does. -/
theorem fate?_withNodes_of_closed (kept : NodeId → Prop)
    (closed : ∀ source target, Joined request.workflow.resolvedEdges source target →
      kept target → kept source)
    (alike : ∀ node ∈ request.workflow.nodes, kept node.id → node ∈ nodes)
    (compiles : request.workflow.compile = .ok compiled)
    (otherCompiles : (request.withNodes nodes).workflow.compile = .ok otherCompiled)
    (functional : orchestrator.registry.Functional)
    (tolerant : (orchestrator.setup request.options).settings.continueOnError = true)
    {id : NodeId} (placed : id ∈ compiled.plan.order) (keeps : kept id) :
    (orchestrator.final (request.withNodes nodes) otherCompiled otherWorld
        otherObserver).ledger.fate? id =
      (orchestrator.final request compiled world observer).ledger.fate? id := by
  have continued := final_continues orchestrator compiles world observer
  have otherContinued := final_continues orchestrator otherCompiles otherWorld otherObserver
  have unstopped := isStopped_final orchestrator world observer compiles tolerant
  have otherUnstopped :=
    isStopped_final orchestrator otherWorld otherObserver otherCompiles tolerant
  -- Along the order of the one run; the other run may visit the nodes otherwise, but it too
  -- decides from the final fates of their sources.
  refine (Workflow.greedy_order compiles).2.legal.induction (motive := fun id => kept id →
    (orchestrator.final (request.withNodes nodes) otherCompiled otherWorld
      otherObserver).ledger.fate? id =
        (orchestrator.final request compiled world observer).ledger.fate? id) ?_ id placed keeps
  intro id member sources keeps
  obtain ⟨node, declared, rfl⟩ := (Workflow.mem_order compiles).mp member
  obtain ⟨_, _, fate⟩ := fate?_final compiles unstopped declared
  obtain ⟨_, _, otherFate⟩ := fate?_final otherCompiles otherUnstopped
    (alike node declared keeps)
  have decided := decideNode_of_agreed otherContinued.agreed continued.agreed
    (otherContinued.initialData.trans continued.initialData.symm)
    fun mapping fed =>
      have joined := Workflow.joined_of_mem_inputsOf compiles fed
      sources _ joined (closed _ _ joined keeps)
  rw [fate, otherFate, inputsOf_withNodes compiles otherCompiles, decided]
  exact congrArg some (RunSetup.settle_congr functional rfl rfl rfl _ _ _)

theorem fate?_withNodes (reordered : nodes.Perm request.workflow.nodes)
    (compiles : request.workflow.compile = .ok compiled)
    (otherCompiles : (request.withNodes nodes).workflow.compile = .ok otherCompiled)
    (functional : orchestrator.registry.Functional)
    (tolerant : (orchestrator.setup request.options).settings.continueOnError = true)
    (id : NodeId) :
    (orchestrator.final (request.withNodes nodes) otherCompiled otherWorld
        otherObserver).ledger.fate? id =
      (orchestrator.final request compiled world observer).ledger.fate? id := by
  have sameIds : id ∈ otherCompiled.plan.order ↔ id ∈ compiled.plan.order := by
    rw [Workflow.mem_order compiles, Workflow.mem_order otherCompiles]
    exact exists_congr fun node => and_congr_left fun _ => reordered.mem_iff
  by_cases placed : id ∈ compiled.plan.order
  · exact fate?_withNodes_of_closed (fun _ => True) (fun _ _ _ _ => trivial)
      (fun node declared _ => reordered.mem_iff.mpr declared) compiles otherCompiles functional
      tolerant placed trivial
  · rw [fate?_final_eq_none compiles placed,
      fate?_final_eq_none otherCompiles (mt sameIds.mp placed)]

theorem order_withNodes (reordered : nodes.Perm request.workflow.nodes)
    (compiles : request.workflow.compile = .ok compiled)
    (otherCompiles : (request.withNodes nodes).workflow.compile = .ok otherCompiled) :
    otherCompiled.plan.order.Perm compiled.plan.order :=
  (Workflow.greedy_order otherCompiles).1.trans
    ((reordered.map Workflow.Node.id).trans (Workflow.greedy_order compiles).1.symm)

theorem posting_withNodes {β : Type} {post : PlannedNode → Fate → List β}
    (compiles : request.workflow.compile = .ok compiled)
    (otherCompiles : (request.withNodes nodes).workflow.compile = .ok otherCompiled)
    {node : Workflow.Node} (declared : node ∈ request.workflow.nodes)
    (otherDeclared : node ∈ nodes) {state other : RunState σ τ}
    (sameFate : other.ledger.fate? node.id = state.ledger.fate? node.id)
    (unindexed : ∀ node other fate, node.node = other.node → node.type = other.type →
      post node fate = post other fate) :
    other.posting otherCompiled post node.id = state.posting compiled post node.id := by
  obtain ⟨_, found⟩ := Workflow.node?_compiled compiles declared
  obtain ⟨_, otherFound⟩ := Workflow.node?_compiled otherCompiles otherDeclared
  rw [RunState.posting, RunState.posting, found, otherFound, sameFate]
  cases state.ledger.fate? node.id with
  | none => rfl
  | some fate => exact unindexed _ _ fate rfl rfl

theorem postings_withNodes {β : Type} {post : PlannedNode → Fate → List β}
    (reordered : nodes.Perm request.workflow.nodes)
    (compiles : request.workflow.compile = .ok compiled)
    (otherCompiles : (request.withNodes nodes).workflow.compile = .ok otherCompiled)
    (functional : orchestrator.registry.Functional)
    (tolerant : (orchestrator.setup request.options).settings.continueOnError = true)
    (unindexed : ∀ node other fate, node.node = other.node → node.type = other.type →
      post node fate = post other fate) :
    (otherCompiled.plan.order.flatMap ((orchestrator.final (request.withNodes nodes) otherCompiled
        otherWorld otherObserver).posting otherCompiled post)).Perm
      (compiled.plan.order.flatMap ((orchestrator.final request compiled world
        observer).posting compiled post)) := by
  refine ((order_withNodes reordered compiles otherCompiles).flatMap_right _).trans ?_
  refine List.Perm.of_eq (List.flatMap_congr fun id member => ?_)
  obtain ⟨node, declared, rfl⟩ := (Workflow.mem_order compiles).mp member
  exact posting_withNodes compiles otherCompiles declared (reordered.mem_iff.mpr declared)
    (fate?_withNodes reordered compiles otherCompiles functional tolerant node.id) unindexed

/-- A workflow compiles whichever order its nodes are declared in, and every node fares the same;
only the order of the lists and the places of the results in the run differ. -/
theorem orchestrate_withNodes (orchestrator : Orchestrator σ τ) (request : RunRequest)
    (nodes : List Workflow.Node) (reordered : nodes.Perm request.workflow.nodes) :
    ((∃ compiled, (request.withNodes nodes).workflow.compile = .ok compiled) ↔
      ∃ compiled, request.workflow.compile = .ok compiled) ∧
    (orchestrator.registry.Functional →
      (orchestrator.setup request.options).settings.continueOnError = true →
      ∀ compiled otherCompiled, request.workflow.compile = .ok compiled →
        (request.withNodes nodes).workflow.compile = .ok otherCompiled →
        ∀ world otherWorld observer otherObserver,
          (∀ id, (orchestrator.final (request.withNodes nodes) otherCompiled otherWorld
              otherObserver).ledger.fate? id =
            (orchestrator.final request compiled world observer).ledger.fate? id) ∧
          let response := (orchestrator.orchestrate request world observer).1
          let other := (orchestrator.orchestrate (request.withNodes nodes) otherWorld
            otherObserver).1
          (other.results.map NodeResult.unplaced).Perm (response.results.map NodeResult.unplaced) ∧
            other.skipped.Perm response.skipped ∧ other.failed.Perm response.failed ∧
            other.status = response.status ∧ other.totalNodes = response.totalNodes ∧
            other.fault = response.fault) := by
  refine ⟨Workflow.exists_compile_withNodes_iff reordered, ?_⟩
  intro functional tolerant compiled otherCompiled compiles otherCompiles world otherWorld
    observer otherObserver
  refine ⟨fate?_withNodes reordered compiles otherCompiles functional tolerant, ?_⟩
  have unstopped := isStopped_final orchestrator world observer compiles tolerant
  have otherUnstopped :=
    isStopped_final orchestrator otherWorld otherObserver otherCompiles tolerant
  rw [orchestrate_compiled compiles, orchestrate_compiled otherCompiles]
  refine ⟨?_, ?_, ?_, ?_, ?_, ?_⟩
  · simp only [RunResponse.ofLedger, results_final compiles unstopped,
      results_final otherCompiles otherUnstopped]
    refine postings_withNodes reordered compiles otherCompiles functional tolerant ?_
    intro node other fate sameNode sameType
    rw [Fate.results, Fate.results, sameNode, sameType]
  · simp only [RunResponse.ofLedger, skipped_final compiles unstopped,
      skipped_final otherCompiles otherUnstopped]
    refine postings_withNodes reordered compiles otherCompiles functional tolerant ?_
    intro node other fate sameNode _
    rw [Fate.skips, Fate.skips, sameNode]
  · simp only [RunResponse.ofLedger, failed_final compiles unstopped,
      failed_final otherCompiles otherUnstopped]
    refine postings_withNodes reordered compiles otherCompiles functional tolerant ?_
    intro node other fate sameNode _
    rw [Fate.failures, Fate.failures, sameNode]
  · simp only [RunResponse.ofLedger, finalStatus, unstopped, otherUnstopped]
  · exact (order_withNodes reordered compiles otherCompiles).length_eq
  · exact (abort_final orchestrator otherWorld otherObserver otherCompiles tolerant).trans
      (abort_final orchestrator world observer compiles tolerant).symm

def relay : Processor Unit :=
  .pure ⟨"t", .processing, "Relay", "Hands its inputs on", [], [], []⟩ fun inputs _ =>
    .ok { data := inputs }

def relays : Orchestrator Unit Unit where
  registry := Registry.empty.register relay
  sink := .silent

def diamondRequest : RunRequest := .ofWorkflow Workflow.diamond

/-- Declared the other way round, the nodes of the diamond are visited in another order. -/
theorem orchestrate_withNodes_diamond :
    Workflow.diamond.nodes.reverse.Perm diamondRequest.workflow.nodes ∧
      relays.registry.Functional ∧
      (relays.setup diamondRequest.options).settings.continueOnError = true ∧
      ∀ id, (relays.final (diamondRequest.withNodes Workflow.diamond.nodes.reverse)
          ((Workflow.diamond.withNodes Workflow.diamond.nodes.reverse).assemble
            ["a", "c", "b", "d"]) () ()).ledger.fate? id =
        (relays.final diamondRequest (Workflow.diamond.assemble ["a", "b", "c", "d"]) ()
          ()).ledger.fate? id := by
  have reordered : Workflow.diamond.nodes.reverse.Perm diamondRequest.workflow.nodes :=
    List.reverse_perm _
  have functional : relays.registry.Functional :=
    Registry.functional_empty.register ⟨fun _ _ _ => rfl, fun _ _ _ _ => rfl⟩
  refine ⟨reordered, functional, rfl, ?_⟩
  obtain ⟨_, fares⟩ := orchestrate_withNodes relays diamondRequest _ reordered
  exact (fares functional rfl _ _ rfl rfl () () () ()).1

end Orchestrator

end Flowline
