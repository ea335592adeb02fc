import Flowline.Proofs.Run.Accounts
import Flowline.Proofs.Run.Loss

/-!
What is behind a missing dependency. An output is missing either because its node has failed of
itself or because that node was without a dependency in its turn, and since the sources of a node
are settled before it, going back from one to the next ends at a node that has failed of itself.
-/

namespace Flowline

variable {σ τ : Type}

/-- What a node can fail by of itself: its type is not known, or its processor does not accept the
inputs or raises an error. -/
inductive Registry.Faults (registry : Registry σ) (node : PlannedNode) : NodeFault → Prop
  | unknownType (unregistered : registry.processor? node.type = none) :
      Faults registry node (.raised (.unknownNodeType node.node node.type))
  | refusedInputs {processor : Processor σ} {inputs : Json.Object} {world : σ}
      (registered : registry.processor? node.type = some processor)
      (refused : processor.accepts inputs world = false) :
      Faults registry node (.refusedInputs (processor.descriptor.missingInputs inputs))
  | raised {processor : Processor σ} {inputs : Json.Object} {world : σ} {error : RunError}
      (registered : registry.processor? node.type = some processor)
      (accepted : processor.accepts inputs world = true)
      (raises : (processor.process inputs (Json.Object.ofConfig node.config) world).1 =
        .error error) :
      Faults registry node (.raised error)

theorem Registry.faults_of_attempt {registry : Registry σ} {node : PlannedNode}
    {inputs : Json.Object} {world : σ} {fault : NodeFault}
    (fails : (registry.attempt node inputs world).1 = .error fault) :
    registry.Faults node fault := by
  unfold attempt at fails
  cases registered : registry.processor? node.type with
  | none =>
      simp only [registered] at fails
      cases fails
      exact .unknownType registered
  | some processor =>
      cases accepted : processor.accepts inputs world with
      | false =>
          simp only [registered, accepted] at fails
          cases fails
          exact .refusedInputs registered accepted
      | true =>
          simp only [registered, accepted, if_true] at fails
          cases replied : (processor.process inputs (Json.Object.ofConfig node.config) world).1 with
          | ok output =>
              rw [replied] at fails
              cases fails
          | error error =>
              rw [replied] at fails
              cases fails
              exact .raised registered accepted replied

/-- How it comes about that a node has no output to give: it has failed of itself, or it is fed by
such a node and was left without a dependency. -/
inductive Explained (registry : Registry σ) (compiled : CompiledWorkflow)
    (fates : NodeId → Option Fate) : NodeId → Prop
  | failed {node : PlannedNode} {fault : NodeFault}
      (found : compiled.node? node.node = some node)
      (settled : fates node.node = some (.finished (.error fault)))
      (faults : registry.Faults node fault) : Explained registry compiled fates node.node
  | deprived {id : NodeId} {fate : Fate} {mapping : InputMapping}
      (fed : mapping ∈ compiled.plan.inputsOf id) (data : mapping.kind = .data)
      (explained : Explained registry compiled fates mapping.source)
      (settled : fates id = some fate) (deprived : fate.isDeprived = true) :
      Explained registry compiled fates id

section Explained

variable {registry : Registry σ} {compiled : CompiledWorkflow} {fates others : NodeId → Option Fate}
  {id : NodeId}

theorem Explained.mono (kept : ∀ id fate, fates id = some fate → others id = some fate)
    (explained : Explained registry compiled fates id) :
    Explained registry compiled others id := by
  induction explained with
  | failed found settled faults => exact .failed found (kept _ _ settled) faults
  | deprived fed data _ settled deprived ih =>
      exact .deprived fed data ih (kept _ _ settled) deprived

/-- A data edge of the plan leads from `source` to `target`, which was left without a dependency. -/
def Starves (compiled : CompiledWorkflow) (fates : NodeId → Option Fate)
    (source target : NodeId) : Prop :=
  (∃ mapping ∈ compiled.plan.inputsOf target, mapping.kind = .data ∧ mapping.source = source) ∧
    ∃ fate, fates target = some fate ∧ fate.isDeprived = true

theorem Explained.origin (explained : Explained registry compiled fates id) :
    ∃ node fault, compiled.node? node.node = some node ∧
      fates node.node = some (.finished (.error fault)) ∧ registry.Faults node fault ∧
        Relation.ReflTransGen (Starves compiled fates) node.node id := by
  induction explained with
  | failed found settled faults => exact ⟨_, _, found, settled, faults, .refl⟩
  | deprived fed data _ settled deprived ih =>
      obtain ⟨node, fault, found, failed, faults, path⟩ := ih
      exact ⟨node, fault, found, failed, faults,
        path.tail ⟨⟨_, fed, data, rfl⟩, _, settled, deprived⟩⟩

theorem Registry.Faults.isDeprived {node : PlannedNode} {fault : NodeFault}
    (faults : registry.Faults node fault) :
    (Fate.finished (.error fault)).isDeprived = false := by
  cases faults <;> rfl

/-- A node that was left without a dependency is apart from the one that is behind it. -/
theorem Explained.origin_of_deprived {fate : Fate}
    (explained : Explained registry compiled fates id) (settled : fates id = some fate)
    (deprived : fate.isDeprived = true) :
    ∃ node fault, compiled.node? node.node = some node ∧
      fates node.node = some (.finished (.error fault)) ∧ registry.Faults node fault ∧
        Relation.TransGen (Starves compiled fates) node.node id := by
  cases explained with
  | failed found failed faults =>
      cases failed.symm.trans settled
      rw [faults.isDeprived] at deprived
      contradiction
  | deprived fed data source settled deprived =>
      obtain ⟨node, fault, found, failed, faults, path⟩ := source.origin
      exact ⟨node, fault, found, failed, faults,
        .tail' path ⟨⟨_, fed, data, rfl⟩, _, settled, deprived⟩⟩

end Explained

/-- Every output that is missing so far has been accounted for. -/
def RunState.Explains (registry : Registry σ) (compiled : CompiledWorkflow)
    (state : RunState σ τ) : Prop :=
  ∀ id fate, state.ledger.fate? id = some fate → fate.isLoss = true →
    Explained registry compiled state.ledger.fate? id

variable {setup : RunSetup σ τ} {compiled : CompiledWorkflow} {state : RunState σ τ}
  {rest : List NodeId} {node : PlannedNode}

namespace RunSetup

theorem isDeprived_settle_lack (setup : RunSetup σ τ) (node : PlannedNode) (world : σ)
    (source : NodeId) : (setup.settle node world (.lack source)).1.isDeprived = true := by
  unfold settle
  cases setup.settings.missingDependency <;> rfl

theorem explains_visit (found : compiled.node? node.node = some node)
    (pending : state.Pending compiled (node.node :: rest))
    (grounded : state.Grounded compiled (node.node :: rest))
    (explains : state.Explains setup.registry compiled) :
    (setup.visit (compiled.plan.inputsOf node.node) node state).Explains setup.registry
      compiled := by
  have fresh := pending.fresh node.node List.mem_cons_self
  have fates := setup.fate?_visit (compiled.plan.inputsOf node.node) pending.agreed fresh
  have kept (id : NodeId) (fate : Fate) (settled : state.ledger.fate? id = some fate) :
      (setup.visit (compiled.plan.inputsOf node.node) node state).ledger.fate? id =
        some fate := by
    have apart : id ≠ node.node := by
      rintro rfl
      rw [fresh] at settled
      cases settled
    rw [fates, if_neg apart, settled]
  intro id fate settled loss
  by_cases head : id = node.node
  · subst head
    have comes : setup.settle node state.world (state.decision compiled node) =
        setup.settled (compiled.plan.inputsOf node.node) node state := rfl
    have settledHere := settled
    rw [fates, if_pos rfl, ← comes] at settledHere
    cases decided : state.decision compiled node with
    | skip triggers =>
        rw [decided] at settledHere
        cases settledHere
        cases loss
    | lack source =>
        obtain ⟨mapping, fed, data, sourceFate, sourceSettled, sourceLoss⟩ :=
          RunState.loss_of_lack pending grounded decided
        rw [decided] at settledHere
        refine .deprived fed data ((explains _ _ sourceSettled sourceLoss).mono kept) settled ?_
        rw [← Option.some.inj settledHere]
        exact setup.isDeprived_settle_lack node state.world source
    | run inputs =>
        rw [decided] at settledHere
        cases attempted : (setup.registry.attempt node inputs state.world).1 with
        | ok output =>
            simp only [settle, attempted] at settledHere
            cases settledHere
            cases loss
        | error fault =>
            simp only [settle, attempted] at settledHere
            cases settledHere
            exact .failed found settled (Registry.faults_of_attempt attempted)
  · rw [fates, if_neg head] at settled
    exact (explains id fate settled loss).mono kept

theorem explains_walk (pending : state.Pending compiled rest)
    (grounded : state.Grounded compiled rest)
    (explains : state.Explains setup.registry compiled) :
    (setup.walk compiled rest state).Explains setup.registry compiled := by
  induction rest generalizing state with
  | nil => exact explains
  | cons id rest ih =>
      obtain ⟨node, found, rfl, visited⟩ := setup.visited_of_pending pending
      have next := explains_visit found pending grounded explains
      rw [setup.walk_cons state rest found]
      split
      · exact next
      · exact ih visited.pending (grounded.tail visited) next

end RunSetup

/-- A data edge leads from `source` to `target`. -/
def Feeds (edges : List ResolvedEdge) (source target : NodeId) : Prop :=
  ∃ edge ∈ edges, edge.kind = .data ∧ edge.source = source ∧ edge.target = target

theorem Workflow.feeds_of_mem_inputsOf {workflow : Workflow}
    (compiles : workflow.compile = .ok compiled) {id : NodeId} {mapping : InputMapping}
    (fed : mapping ∈ compiled.plan.inputsOf id) (data : mapping.kind = .data) :
    Feeds workflow.resolvedEdges mapping.source id := by
  rw [inputsOf_compiled compiles, List.mem_map] at fed
  obtain ⟨edge, found, rfl⟩ := fed
  obtain ⟨listed, target⟩ := List.mem_filter.mp found
  exact ⟨edge, listed, data, rfl, eq_of_beq target⟩

namespace RunResponse

/-- The node is recorded as failed for want of a dependency, or as skipped though its branch was
not. -/
def Lacks (response : RunResponse) (branchSkipped : List NodeId) (id : NodeId) : Prop :=
  (∃ result ∈ response.results, result.node = id ∧
    ∃ source, result.outcome = .error (.missingDependency source)) ∨
      id ∈ response.skipped ∧ id ∉ branchSkipped

/-- The node is recorded as failed by a fault of its own. -/
def FailsItself (response : RunResponse) (registry : Registry σ) (compiled : CompiledWorkflow)
    (id : NodeId) : Prop :=
  ∃ result ∈ response.results, result.node = id ∧
    ∃ node fault, compiled.node? id = some node ∧ result.outcome = .error fault ∧
      registry.Faults node fault

end RunResponse

namespace Orchestrator

variable {orchestrator : Orchestrator σ τ} {request : RunRequest} {world : σ} {observer : τ}
  {id : NodeId}

section Compiled

variable (compiles : request.workflow.compile = .ok compiled)

include compiles

theorem explains_final :
    (orchestrator.final request compiled world observer).Explains orchestrator.registry
      compiled := by
  refine RunSetup.explains_walk (pending_start compiles world observer)
    (grounded_start compiles world observer) ?_
  intro id fate settled
  cases settled

theorem fate?_final_eq_finished_iff {outcome : Except NodeFault Output} :
    (orchestrator.final request compiled world observer).ledger.fate? id =
        some (.finished outcome) ↔
      ∃ result ∈ (orchestrator.final request compiled world observer).ledger.results,
        result.node = id ∧ result.outcome = outcome :=
  (accounts_visited compiles).fate?_eq_finished_iff (gated_final compiles)

theorem lacks_iff :
    (orchestrator.orchestrate request world observer).1.Lacks
        (orchestrator.final request compiled world observer).ledger.branchSkipped id ↔
      ∃ fate, (orchestrator.final request compiled world observer).ledger.fate? id = some fate ∧
        fate.isDeprived = true := by
  rw [orchestrate_compiled compiles, RunResponse.Lacks]
  constructor
  · rintro (⟨result, member, same, source, outcome⟩ | skipped)
    · exact ⟨_, (fate?_final_eq_finished_iff compiles).mpr ⟨result, member, same, outcome⟩, rfl⟩
    · exact ⟨_, Ledger.fate?_eq_dependencySkipped_iff.mpr skipped, rfl⟩
  · rintro ⟨fate, settled, deprived⟩
    cases fate with
    | branchSkipped => cases deprived
    | dependencySkipped => exact Or.inr (Ledger.fate?_eq_dependencySkipped_iff.mp settled)
    | finished outcome =>
        obtain ⟨result, member, same, rfl⟩ := (fate?_final_eq_finished_iff compiles).mp settled
        refine Or.inl ⟨result, member, same, ?_⟩
        cases outcome : result.outcome with
        | ok output =>
            rw [outcome] at deprived
            cases deprived
        | error fault =>
            rw [outcome] at deprived
            cases fault with
            | missingDependency source => exact ⟨source, rfl⟩
            | refusedInputs missing => cases deprived
            | raised error => cases deprived

theorem failsItself {node : PlannedNode} {fault : NodeFault}
    (found : compiled.node? node.node = some node)
    (settled : (orchestrator.final request compiled world observer).ledger.fate? node.node =
      some (.finished (.error fault)))
    (faults : orchestrator.registry.Faults node fault) :
    (orchestrator.orchestrate request world observer).1.FailsItself orchestrator.registry compiled
      node.node := by
  obtain ⟨result, member, same, outcome⟩ := (fate?_final_eq_finished_iff compiles).mp settled
  rw [orchestrate_compiled compiles]
  exact ⟨result, member, same, node, fault, found, outcome, faults⟩

theorem starves_final {source target : NodeId}
    (starves : Starves compiled
      (orchestrator.final request compiled world observer).ledger.fate? source target) :
    Feeds request.workflow.resolvedEdges source target ∧
      (orchestrator.orchestrate request world observer).1.Lacks
        (orchestrator.final request compiled world observer).ledger.branchSkipped target := by
  obtain ⟨⟨mapping, fed, data, rfl⟩, deprived⟩ := starves
  exact ⟨Workflow.feeds_of_mem_inputsOf compiles fed data, (lacks_iff compiles).mpr deprived⟩

/-- Where no node fails of itself, there is no loss for another to suffer from. -/
theorem isLoss_of_sound
    (sound : ∀ id, ¬ (orchestrator.orchestrate request world observer).1.FailsItself
      orchestrator.registry compiled id) {fate : Fate}
    (settled : (orchestrator.final request compiled world observer).ledger.fate? id =
      some fate) : fate.isLoss = false := by
  by_contra loss
  have explained := explains_final compiles id fate settled (eq_true_of_ne_false loss)
  obtain ⟨node, fault, found, failed, faults, _⟩ := explained.origin
  exact sound node.node (failsItself compiles found failed faults)

theorem unstopped_of_sound
    (sound : ∀ id, ¬ (orchestrator.orchestrate request world observer).1.FailsItself
      orchestrator.registry compiled id) :
    (orchestrator.final request compiled world observer).ledger.isStopped = false := by
  by_contra stopped
  obtain ⟨_, last, _, _, _, _, failed⟩ :=
    accounts_final_of_stopped compiles (eq_true_of_ne_false stopped)
  have listed : last ∈
      (orchestrator.final request compiled world observer).ledger.failed := by simp [failed]
  obtain ⟨fault, settled⟩ := (mem_failed_iff compiles).mp listed
  have spared := isLoss_of_sound compiles sound settled
  contradiction

end Compiled

/-- Behind every node that is left without a dependency there is one that failed of itself, from
which data edges lead to it over nodes that were all left without a dependency; so a run in which no
node fails of itself has every node succeed, save for the skipped branches. -/
theorem orchestrate_deprivation (orchestrator : Orchestrator σ τ)
    (compiles : request.workflow.compile = .ok compiled) (world : σ) (observer : τ) :
    let response := (orchestrator.orchestrate request world observer).1
    let branchSkipped := (orchestrator.final request compiled world observer).ledger.branchSkipped
    (∀ id, response.Lacks branchSkipped id →
      ∃ origin, response.FailsItself orchestrator.registry compiled origin ∧
        Relation.TransGen
          (fun source target => Feeds request.workflow.resolvedEdges source target ∧
            response.Lacks branchSkipped target) origin id) ∧
      ((∀ id, ¬ response.FailsItself orchestrator.registry compiled id) →
        ∀ node ∈ request.workflow.nodes,
          (∃ result ∈ response.results, result.node = node.id ∧ result.isSuccess = true) ∨
            node.id ∈ response.skipped ∧ node.id ∈ branchSkipped) := by
  intro response branchSkipped
  constructor
  · intro id lacks
    obtain ⟨fate, settled, deprived⟩ := (lacks_iff compiles).mp lacks
    have loss : fate.isLoss = true := by
      by_contra harmless
      rw [(Fate.isLoss_eq_false_iff.mp (eq_false_of_ne_true harmless)).2] at deprived
      contradiction
    obtain ⟨node, fault, found, failed, faults, path⟩ :=
      (explains_final compiles id fate settled loss).origin_of_deprived settled deprived
    exact ⟨node.node, failsItself compiles found failed faults,
      Relation.TransGen.mono (fun _ _ => starves_final compiles) _ _ path⟩
  · intro sound node declared
    have unstopped := unstopped_of_sound compiles sound
    obtain ⟨index, world', settled⟩ := fate?_final compiles unstopped declared
    have spared := isLoss_of_sound compiles sound settled
    simp only [response, branchSkipped, orchestrate_compiled compiles]
    generalize ((orchestrator.setup request.options).settle _ world' _).1 = fate at settled spared
    cases fate with
    | branchSkipped =>
        have skipped := Ledger.fate?_eq_branchSkipped_iff.mp settled
        exact Or.inr ⟨gated_final compiles skipped, skipped⟩
    | dependencySkipped => cases spared
    | finished outcome =>
        obtain ⟨result, member, same, rfl⟩ := (fate?_final_eq_finished_iff compiles).mp settled
        refine Or.inl ⟨result, member, same, ?_⟩
        rw [NodeResult.isSuccess]
        cases outcome : result.outcome with
        | ok output => rfl
        | error fault =>
            rw [outcome] at spared
            cases spared

theorem orchestrate_deprivation_forked :
    forked.compile = .ok (forked.assemble forkedOrder) ∧
      ∃ origin, (gateways.orchestrate forkedRequest () ()).1.FailsItself gateways.registry
          (forked.assemble forkedOrder) origin ∧
        Relation.TransGen
          (fun source target => Feeds forked.resolvedEdges source target ∧
            (gateways.orchestrate forkedRequest () ()).1.Lacks
              (gateways.final forkedRequest (forked.assemble forkedOrder) ()
                ()).ledger.branchSkipped target) origin "late" := by
  have compiles : forkedRequest.workflow.compile = .ok (forked.assemble forkedOrder) := by
    decide +kernel
  have failed : ((gateways.orchestrate forkedRequest () ()).1.result? "late").map
      NodeResult.outcome = some (.error (.missingDependency "lost")) := by
    decide +kernel
  obtain ⟨result, found, outcome⟩ := Option.map_eq_some_iff.mp failed
  have same := List.find?_some found
  refine ⟨compiles, (orchestrate_deprivation gateways compiles () ()).1 "late" ?_⟩
  exact Or.inl ⟨result, List.mem_of_find?_eq_some found, eq_of_beq same, "lost", outcome⟩

end Orchestrator

end Flowline
