import Flowline.Builtin.Branching
import Flowline.Proofs.Run.Invocation

/-!
What a completed run means: the state it ends in satisfies, for every node, the rule by which the
node was decided about when it was visited.
-/

namespace Flowline

variable {σ τ : Type}

theorem Registry.attempt_ne_missingDependency (registry : Registry σ) (node : PlannedNode)
    (inputs : Json.Object) (world : σ) (source : NodeId) :
    (registry.attempt node inputs world).1 ≠ .error (.missingDependency source) := by
  unfold attempt
  cases registry.processor? node.type with
  | none => simp
  | some processor =>
      cases accepted : processor.accepts inputs world with
      | false => simp [accepted]
      | true =>
          simp only [accepted, if_true]
          cases (processor.process inputs (Json.Object.ofConfig node.config) world).1 <;>
            simp [Except.map, Except.mapError]

namespace RunResponse

/-- The response deals with the node as with one that lacks a dependency. -/
def Deprives (response : RunResponse) (policy : MissingDependencyPolicy) (id : NodeId) : Prop :=
  match policy with
  | .fail =>
    id ∈ response.failed ∧ ∃ result ∈ response.results, result.node = id ∧
      ∃ source, result.outcome = .error (.missingDependency source)
  | .skip => id ∈ response.skipped

end RunResponse

namespace Orchestrator

variable {orchestrator : Orchestrator σ τ} {request : RunRequest} {compiled : CompiledWorkflow}
  {world : σ} {observer : τ} {node : Workflow.Node}
  (compiles : request.workflow.compile = .ok compiled)
  (unstopped : (orchestrator.final request compiled world observer).ledger.isStopped = false)
  (declared : node ∈ request.workflow.nodes)

include compiles unstopped declared

theorem branchSkipped_iff_dormant :
    node.id ∈ (orchestrator.final request compiled world observer).ledger.branchSkipped ↔
      Dormant (compiled.plan.inputsOf node.id)
        (orchestrator.final request compiled world observer).context.output? := by
  obtain ⟨index, state, fate⟩ := fate?_final compiles unstopped declared
  rw [← Ledger.fate?_eq_branchSkipped_iff, fate]
  by_cases dormant : Dormant (compiled.plan.inputsOf node.id)
      (orchestrator.final request compiled world observer).context.output?
  · obtain ⟨triggers, decided⟩ := decideNode_of_dormant dormant
    rw [decided]
    exact iff_of_true rfl dormant
  · refine iff_of_false ?_ dormant
    rw [decideNode_of_not_dormant dormant]
    cases resolveInputs (compiled.plan.inputsOf node.id)
        (orchestrator.final request compiled world observer).context
        (orchestrator.final request compiled world observer).ledger.branchSkipped with
    | ready inputs => simp [RunSetup.settle]
    | missing source edge =>
        simp only [RunSetup.settle]
        cases (orchestrator.setup request.options).settings.missingDependency <;> simp

theorem not_called_of_dormant
    (dormant : Dormant (compiled.plan.inputsOf node.id)
      (orchestrator.final request compiled world observer).context.output?) :
    RunSetup.callsFor node.id (orchestrator.calls request compiled world observer) = [] := by
  obtain ⟨index, calls⟩ := callsFor_final compiles unstopped declared
  obtain ⟨triggers, decided⟩ := decideNode_of_dormant dormant
  rw [calls, decided]
  rfl

theorem deprived_of_lacking
    (awake : ¬ Dormant (compiled.plan.inputsOf node.id)
      (orchestrator.final request compiled world observer).context.output?)
    (lacking : Lacking (compiled.plan.inputsOf node.id)
      (orchestrator.final request compiled world observer).context.output?
      (orchestrator.final request compiled world observer).ledger.branchSkipped) :
    (orchestrator.orchestrate request world observer).1.Deprives
        (orchestrator.setup request.options).settings.missingDependency node.id ∧
      RunSetup.callsFor node.id (orchestrator.calls request compiled world observer) = [] := by
  obtain ⟨index, state, fate⟩ := fate?_final compiles unstopped declared
  obtain ⟨index, calls⟩ := callsFor_final compiles unstopped declared
  obtain ⟨source, decided⟩ := decideNode_of_lacking awake lacking
  rw [decided] at fate calls
  have placed := (Workflow.mem_order compiles).mpr ⟨node, declared, rfl⟩
  refine ⟨?_, calls⟩
  rw [orchestrate_compiled compiles]
  unfold RunResponse.Deprives
  cases policy : (orchestrator.setup request.options).settings.missingDependency with
  | skip =>
      simp only [RunSetup.settle, policy] at fate
      exact Ledger.mem_skipped_of_fate? fate
  | fail =>
      simp only [RunSetup.settle, policy] at fate
      obtain ⟨_, result, member, same, outcome⟩ := Ledger.exists_result_of_fate? fate
      exact ⟨mem_failed_final compiles unstopped placed fate, result, member, same, source,
        outcome⟩

theorem supplied_of_not_lacking
    (awake : ¬ Dormant (compiled.plan.inputsOf node.id)
      (orchestrator.final request compiled world observer).context.output?)
    (supplied : ¬ Lacking (compiled.plan.inputsOf node.id)
      (orchestrator.final request compiled world observer).context.output?
      (orchestrator.final request compiled world observer).ledger.branchSkipped) :
    ∃ index inputs,
      resolveInputs (compiled.plan.inputsOf node.id)
          (orchestrator.final request compiled world observer).context
          (orchestrator.final request compiled world observer).ledger.branchSkipped =
        .ready inputs ∧
      RunSetup.callsFor node.id (orchestrator.calls request compiled world observer) =
        ((orchestrator.setup request.options).call?
          (Workflow.plannedNode (Workflow.inputMappings request.workflow.resolvedEdges) index node)
          (orchestrator.worldBefore request compiled world observer node.id) (.run inputs)).toList ∧
      ¬ (orchestrator.orchestrate request world observer).1.Deprives
        (orchestrator.setup request.options).settings.missingDependency node.id := by
  obtain ⟨index, state, fate⟩ := fate?_final compiles unstopped declared
  obtain ⟨index, calls⟩ := callsFor_final compiles unstopped declared
  obtain ⟨inputs, resolved, decided⟩ := decideNode_of_supplied awake supplied
  rw [decided] at fate calls
  refine ⟨index, inputs, resolved, calls, ?_⟩
  rw [orchestrate_compiled compiles]
  unfold RunResponse.Deprives
  cases (orchestrator.setup request.options).settings.missingDependency with
  | skip =>
      exact (Ledger.exists_result_of_fate? fate).1
  | fail =>
      rintro ⟨_, result, member, same, source, outcome⟩
      have settled := fate?_of_mem_results compiles unstopped member
      rw [same, fate, outcome] at settled
      exact Registry.attempt_ne_missingDependency _ _ inputs state source
        (Fate.finished.inj (Option.some.inj settled))

end Orchestrator

namespace Orchestrator

variable {orchestrator : Orchestrator σ τ} {request : RunRequest} {compiled : CompiledWorkflow}
  {world : σ} {observer : τ}

/-- A completed run, told from the outputs and the skipped branches that it ends with: a node is
skipped with its branch if it is dormant, is deprived if it lacks a dependency, and else its
processor, if it accepts the inputs, is called on them and nothing more. The calls are those that
processors under record note down. -/
theorem orchestrate_meaning (compiles : request.workflow.compile = .ok compiled)
    (completed : (orchestrator.orchestrate request world observer).1.status = .completed) :
    (orchestrator.recorded.orchestrate request (world, []) observer).2.1 =
        ((orchestrator.orchestrate request world observer).2.1,
          (orchestrator.calls request compiled world observer).map Prod.snd) ∧
      ∀ node ∈ request.workflow.nodes,
        let response := (orchestrator.orchestrate request world observer).1
        let policy := (orchestrator.setup request.options).settings.missingDependency
        let context := (orchestrator.final request compiled world observer).context
        let branchSkipped :=
          (orchestrator.final request compiled world observer).ledger.branchSkipped
        let mappings := compiled.plan.inputsOf node.id
        let calls :=
          RunSetup.callsFor node.id (orchestrator.calls request compiled world observer)
        (node.id ∈ branchSkipped ↔ Dormant mappings context.output?) ∧
          (node.id ∈ branchSkipped → calls = []) ∧
          (node.id ∉ branchSkipped →
            (response.Deprives policy node.id ∧ calls = [] ↔
              Lacking mappings context.output? branchSkipped) ∧
            (¬ Lacking mappings context.output? branchSkipped →
              ∃ inputs, resolveInputs mappings context branchSkipped = .ready inputs ∧
                ∀ processor, orchestrator.registry.processor? node.type = some processor →
                  processor.accepts inputs
                      (orchestrator.worldBefore request compiled world observer node.id) = true →
                    ∃ config, Json.Object.ConfiguredBy config node.config ∧
                      calls = [⟨node.type, inputs, config⟩])) := by
  have unstopped := (completed_iff compiles).mp completed
  refine ⟨by rw [orchestrate_recorded compiles], ?_⟩
  intro node declared response policy context branchSkipped mappings calls
  have dormancy := branchSkipped_iff_dormant compiles unstopped declared
  refine ⟨dormancy, ?_, ?_⟩
  · intro skipped
    exact not_called_of_dormant compiles unstopped declared (dormancy.mp skipped)
  · intro kept
    have awake := mt dormancy.mpr kept
    refine ⟨⟨?_, deprived_of_lacking compiles unstopped declared awake⟩, ?_⟩
    · rintro ⟨deprived, _⟩
      by_contra supplied
      obtain ⟨_, _, _, _, provided⟩ :=
        supplied_of_not_lacking compiles unstopped declared awake supplied
      exact provided deprived
    · intro supplied
      obtain ⟨index, inputs, resolved, made, _⟩ :=
        supplied_of_not_lacking compiles unstopped declared awake supplied
      refine ⟨inputs, resolved, ?_⟩
      intro processor registered accepted
      have planned : (orchestrator.setup request.options).registry.processor?
          (Workflow.plannedNode (Workflow.inputMappings request.workflow.resolvedEdges) index
            node).type = some processor := registered
      refine ⟨_, Json.Object.configuredBy_iff.mpr rfl, ?_⟩
      simp only [calls, made, RunSetup.call?, planned, Option.bind_some, accepted, if_true]
      rfl

/-- A gate with a node behind either branch, and a node of unknown type with one that needs it. -/
def forked : Workflow where
  id := "forked"
  nodes := [⟨"yes", "boolean_gateway", .null, none⟩, ⟨"no", "boolean_gateway", .null, none⟩,
    ⟨"gate", "boolean_gateway", .null, none⟩, ⟨"lost", "unknown", .null, none⟩,
    ⟨"late", "boolean_gateway", .null, none⟩]
  edges := [⟨"", "gate", "yes", some "gate-output-true", some "yes-input-trigger"⟩,
    ⟨"", "gate", "no", some "gate-output-false", some "no-input-trigger"⟩]
  connections := [⟨"gate", "lost"⟩, ⟨"lost", "late"⟩]

def forkedOrder : List NodeId := ["gate", "yes", "no", "lost", "late"]

def forkedRequest : RunRequest := .ofWorkflow forked "" [("value", .bool true)]

def gateways : Orchestrator Unit Unit where
  registry := Registry.empty.register booleanGateway
  sink := .silent

/-- The node behind the chosen branch is called on the initial data, and the node behind the one of
unknown type is deprived. -/
theorem orchestrate_meaning_forked :
    let compiled := forked.assemble forkedOrder
    let response := (gateways.orchestrate forkedRequest () ()).1
    let final := gateways.final forkedRequest compiled () ()
    let calls := gateways.calls forkedRequest compiled () ()
    forked.compile = .ok compiled ∧ response.status = .completed ∧
      (∀ node ∈ forked.nodes,
        (node.id ∈ final.ledger.branchSkipped ↔
          Dormant (compiled.plan.inputsOf node.id) final.context.output?)) ∧
      response.Deprives .fail "late" ∧ RunSetup.callsFor "late" calls = [] ∧
      RunSetup.callsFor "yes" calls = [⟨"boolean_gateway", [("value", .bool true)], []⟩] := by
  intro compiled response final calls
  have compiles : forkedRequest.workflow.compile = .ok compiled := by decide +kernel
  have completed : response.status = .completed := by decide +kernel
  obtain ⟨_, meaning⟩ := orchestrate_meaning compiles completed
  have skipped : final.ledger.branchSkipped = ["no"] := by decide +kernel
  have lacking : Lacking (compiled.plan.inputsOf "late") final.context.output?
      final.ledger.branchSkipped := by
    unfold Lacking
    decide +kernel
  have triggered : ∀ mapping ∈ compiled.plan.inputsOf "yes", mapping.kind = .trigger := by
    decide +kernel
  have supplied : ¬ Lacking (compiled.plan.inputsOf "yes") final.context.output?
      final.ledger.branchSkipped := by
    rintro ⟨mapping, member, data, _⟩
    cases data.symm.trans (triggered mapping member)
  have ready : resolveInputs (compiled.plan.inputsOf "yes") final.context
      final.ledger.branchSkipped = .ready [("value", .bool true)] := by
    decide +kernel
  obtain ⟨_, _, late⟩ := meaning ⟨"late", "boolean_gateway", .null, none⟩ (by decide)
  obtain ⟨_, _, yes⟩ := meaning ⟨"yes", "boolean_gateway", .null, none⟩ (by decide)
  obtain ⟨deprived, uncalled⟩ := (late (by rw [skipped]; decide)).1.mpr lacking
  obtain ⟨inputs, resolved, called⟩ := (yes (by rw [skipped]; decide)).2 supplied
  cases ready.symm.trans resolved
  obtain ⟨config, configured, made⟩ := called booleanGateway rfl rfl
  cases configured with
  | none =>
      exact ⟨compiles, completed, fun node declared => (meaning node declared).1, deprived,
        uncalled, made⟩
  | whole filled => exact absurd rfl filled

end Orchestrator

end Flowline
