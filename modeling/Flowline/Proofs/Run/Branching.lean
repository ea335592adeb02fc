import Flowline.Proofs.Builtin.Gates
import Flowline.Proofs.Run.Accounts
import Flowline.Proofs.Workflow.Building

/-!
Where a run goes behind a gate. The branches that a gate selects are told from its output, the ones
that a node waits for from the steps by which the workflow was built, and the node is skipped with
its branch if and only if none of the ones is among the others.
-/

namespace Flowline

variable {σ τ : Type}

namespace Workflow

/-- The trigger edges into the target leave one node, through just the given branches. -/
structure GatedBy (steps : List BuildStep) (source : NodeId) (branches : List PortId)
    (target : NodeId) : Prop where
  sole : ∀ gate, gate ∈ gates steps target ↔ ∃ branch ∈ branches, gate = (source, branch)
  nonempty : branches ≠ []
  named : "" ∉ branches

namespace GatedBy

variable {id name : String} {steps : List BuildStep} {compiled : CompiledWorkflow}
  {source target : NodeId} {branches : List PortId}

theorem of_gates (same : gates steps target = branches.map (source, ·)) (nonempty : branches ≠ [])
    (named : "" ∉ branches) : GatedBy steps source branches target where
  sole := by
    intro gate
    rw [same, List.mem_map]
    simp only [eq_comm]
  nonempty
  named

variable (gated : GatedBy steps source branches target)

include gated

theorem exists_gate : ∃ gate, gate ∈ gates steps target := by
  obtain ⟨branch, member⟩ := List.exists_mem_of_ne_nil _ gated.nonempty
  exact ⟨_, (gated.sole _).mpr ⟨branch, member, rfl⟩⟩

section Compiled

variable (compiles : (build id name steps).compile = .ok compiled)

include compiles

theorem exists_trigger :
    ∃ mapping ∈ compiled.plan.inputsOf target, mapping.kind = .trigger := by
  obtain ⟨gate, member⟩ := gated.exists_gate
  obtain ⟨mapping, entering, trigger, _⟩ :=
    (exists_trigger_iff compiles fun _ _ => True).mpr ⟨gate, member, trivial⟩
  exact ⟨mapping, entering, trigger⟩

theorem declared : ∃ node ∈ (build id name steps).nodes, node.id = target := by
  obtain ⟨mapping, entering, _⟩ := gated.exists_trigger compiles
  obtain ⟨_, closed, _⟩ := compile_eq_ok_iff.mp compiles
  exact List.mem_map.mp (closed.target (joined_of_mem_inputsOf compiles entering))

theorem exists_active_iff (outputs : NodeId → Option Output) :
    (∃ mapping ∈ compiled.plan.inputsOf target, mapping.kind = .trigger ∧
        mapping.Active outputs) ↔
      ∃ output, outputs source = some output ∧
        ∀ signal, output.signal = some signal → ∃ branch ∈ branches, branch ∈ signal.names := by
  have opened (output : Output) (branch : PortId) (member : branch ∈ branches) :
      (output.signal = none ∨ ∃ signal port, output.signal = some signal ∧
        Handle.named? branch = some port ∧ signal.activates port = true) ↔
          ∀ signal, output.signal = some signal → branch ∈ signal.names := by
    have named : branch ≠ "" := fun unnamed => gated.named (unnamed ▸ member)
    cases output.signal <;> simp [Handle.named?_eq_some_iff, Signal.activates, named]
  refine (exists_trigger_iff compiles fun source port => ∃ output, outputs source = some output ∧
    (output.signal = none ∨ ∃ signal branch, output.signal = some signal ∧ port = some branch ∧
      signal.activates branch = true)).trans ?_
  constructor
  · rintro ⟨gate, member, output, found, active⟩
    obtain ⟨branch, listed, rfl⟩ := (gated.sole gate).mp member
    exact ⟨output, found, fun signal given =>
      ⟨branch, listed, (opened output branch listed).mp active signal given⟩⟩
  · rintro ⟨output, found, selected⟩
    have met : ∃ branch ∈ branches, ∀ signal, output.signal = some signal →
        branch ∈ signal.names := by
      cases given : output.signal with
      | none =>
          obtain ⟨branch, listed⟩ := List.exists_mem_of_ne_nil _ gated.nonempty
          exact ⟨branch, listed, nofun⟩
      | some signal =>
          obtain ⟨branch, listed, inside⟩ := selected signal given
          exact ⟨branch, listed, fun _ same => Option.some.inj same ▸ inside⟩
    obtain ⟨branch, listed, active⟩ := met
    exact ⟨_, (gated.sole _).mpr ⟨branch, listed, rfl⟩, output, found,
      (opened output branch listed).mpr active⟩

theorem dormant_iff (outputs : NodeId → Option Output) :
    Dormant (compiled.plan.inputsOf target) outputs ↔
      ∀ output, outputs source = some output →
        ∃ signal, output.signal = some signal ∧ ∀ branch ∈ branches, branch ∉ signal.names := by
  have awake := gated.exists_active_iff compiles outputs
  have dormant : Dormant (compiled.plan.inputsOf target) outputs ↔
      ¬ ∃ mapping ∈ compiled.plan.inputsOf target, mapping.kind = .trigger ∧
        mapping.Active outputs := by
    rw [Dormant, and_iff_right (gated.exists_trigger compiles)]
    simp only [not_exists, not_and]
  rw [dormant, awake]
  simp only [not_exists, not_and, not_forall, exists_prop]

end Compiled

end GatedBy

end Workflow

theorem Registry.attempt_eq_ok {registry : Registry σ} {node : PlannedNode} {inputs : Json.Object}
    {world : σ} {processor : Processor σ} {output : Output}
    (registered : registry.processor? node.type = some processor)
    (attempted : (registry.attempt node inputs world).1 = .ok output) :
    ∃ reply, (processor.process inputs (Json.Object.ofConfig node.config) world).1 = .ok reply ∧
      output = reply.liftSignal := by
  unfold attempt at attempted
  simp only [registered] at attempted
  split at attempted
  · cases replied : (processor.process inputs (Json.Object.ofConfig node.config) world).1 with
    | error error =>
        rw [replied] at attempted
        cases attempted
    | ok reply =>
        rw [replied] at attempted
        cases attempted
        exact ⟨reply, rfl, rfl⟩
  · cases attempted

theorem RunSetup.settle_eq_ok {setup : RunSetup σ τ} {node : PlannedNode} {world : σ}
    {decision : Decision} {output : Output}
    (settled : (setup.settle node world decision).1 = .finished (.ok output)) :
    ∃ inputs, (setup.registry.attempt node inputs world).1 = .ok output := by
  cases decision with
  | skip triggers => cases settled
  | lack source =>
      simp only [settle] at settled
      cases policy : setup.settings.missingDependency <;> simp [policy] at settled
  | run inputs => exact ⟨inputs, Fate.finished.inj settled⟩

namespace RunResponse

/-- The node has run and has put out the output. -/
def Succeeded (response : RunResponse) (id : NodeId) (output : Output) : Prop :=
  ∃ result ∈ response.results, result.node = id ∧ result.outcome = .ok output

end RunResponse

namespace Orchestrator

variable {orchestrator : Orchestrator σ τ} {request : RunRequest} {compiled : CompiledWorkflow}
  {world : σ} {observer : τ} {source : Workflow.Node} {gate : Gate} {output : Output}

theorem output?_of_failed_or_skipped (compiles : request.workflow.compile = .ok compiled)
    (lost : source.id ∈ (orchestrator.orchestrate request world observer).1.failed ∨
      source.id ∈ (orchestrator.orchestrate request world observer).1.skipped) :
    (orchestrator.final request compiled world observer).context.output? source.id = none := by
  rw [orchestrate_compiled compiles] at lost
  rw [(final_continues orchestrator compiles world observer).agreed]
  rcases lost with failed | skipped
  · obtain ⟨fault, settled⟩ := (mem_failed_iff compiles).mp failed
    rw [settled]
    rfl
  · by_cases branchSkipped : source.id ∈
        (orchestrator.final request compiled world observer).ledger.branchSkipped
    · rw [Ledger.fate?_eq_branchSkipped_iff.mpr branchSkipped]
      rfl
    · rw [Ledger.fate?_eq_dependencySkipped_iff.mpr ⟨skipped, branchSkipped⟩]
      rfl

section Gate

variable (compiles : request.workflow.compile = .ok compiled)
  (unstopped : (orchestrator.final request compiled world observer).ledger.isStopped = false)

include compiles unstopped

theorem fate?_of_succeeded
    (succeeded : (orchestrator.orchestrate request world observer).1.Succeeded source.id output) :
    (orchestrator.final request compiled world observer).ledger.fate? source.id =
      some (.finished (.ok output)) := by
  obtain ⟨result, member, same, outcome⟩ := succeeded
  rw [orchestrate_compiled compiles] at member
  rw [← same, fate?_of_mem_results compiles unstopped member, outcome]

theorem output?_of_succeeded
    (succeeded : (orchestrator.orchestrate request world observer).1.Succeeded source.id output) :
    (orchestrator.final request compiled world observer).context.output? source.id =
      some output := by
  rw [(final_continues orchestrator compiles world observer).agreed,
    fate?_of_succeeded compiles unstopped succeeded]
  rfl

theorem selects_of_succeeded (declared : source ∈ request.workflow.nodes)
    (running : orchestrator.registry.processor? source.type = some gate.processor)
    (succeeded : (orchestrator.orchestrate request world observer).1.Succeeded source.id output) :
    ∃ signal, output.signal = some signal ∧
      gate.Selects (Json.Object.ofConfig source.config) output signal.names := by
  have settled := fate?_of_succeeded compiles unstopped succeeded
  obtain ⟨index, world', fate⟩ := fate?_final compiles unstopped declared
  rw [fate] at settled
  obtain ⟨inputs, attempted⟩ := RunSetup.settle_eq_ok (Option.some.inj settled)
  obtain ⟨reply, replied, rfl⟩ := Registry.attempt_eq_ok running attempted
  obtain ⟨signal, given, selects⟩ := Gate.selects_of_process replied
  have kept : reply.liftSignal = reply := by
    rw [Output.liftSignal, given]
  rw [kept]
  exact ⟨signal, given, selects⟩

end Gate

/-- In a completed run of a workflow that was built step by step, whatever the texts of ids and
branches are, a node behind a gate is skipped with its branch if and only if the gate has put out
nothing or has selected none of the branches that lead to the node. -/
theorem orchestrate_branching (gate : Gate) {id name : String} {steps : List Workflow.BuildStep}
    (built : request.workflow = .build id name steps)
    (compiles : request.workflow.compile = .ok compiled)
    (completed : (orchestrator.orchestrate request world observer).1.status = .completed)
    (declared : source ∈ request.workflow.nodes)
    (running : orchestrator.registry.processor? source.type = some gate.processor) :
    let response := (orchestrator.orchestrate request world observer).1
    let branchSkipped := (orchestrator.final request compiled world observer).ledger.branchSkipped
    (∀ output, response.Succeeded source.id output →
      ∃ config names, Json.Object.ConfiguredBy config source.config ∧
        gate.Selects config output names ∧
        ∀ branches target, Workflow.GatedBy steps source.id branches target →
          (target ∈ branchSkipped ↔ ∀ branch ∈ branches, branch ∉ names)) ∧
      (source.id ∈ response.failed ∨ source.id ∈ response.skipped →
        ∀ branches target, Workflow.GatedBy steps source.id branches target →
          target ∈ branchSkipped) ∧
      (gate ≠ .gateway → ∀ output, response.Succeeded source.id output →
        ∀ yes no, Workflow.GatedBy steps source.id ["true"] yes →
          Workflow.GatedBy steps source.id ["false"] no →
            (yes ∈ branchSkipped ↔ no ∉ branchSkipped)) := by
  intro response branchSkipped
  have unstopped := (completed_iff compiles).mp completed
  have skipped (branches : List PortId) (target : NodeId)
      (gated : Workflow.GatedBy steps source.id branches target) :
      target ∈ branchSkipped ↔
        ∀ output,
          (orchestrator.final request compiled world observer).context.output? source.id =
              some output →
            ∃ signal, output.signal = some signal ∧
              ∀ branch ∈ branches, branch ∉ signal.names := by
    obtain ⟨node, listed, rfl⟩ := gated.declared (built ▸ compiles)
    rw [← gated.dormant_iff (built ▸ compiles)]
    exact branchSkipped_iff_dormant compiles unstopped (built ▸ listed)
  have selected (output : Output) (succeeded : response.Succeeded source.id output) :
      ∃ config names, Json.Object.ConfiguredBy config source.config ∧
        gate.Selects config output names ∧
        ∀ branches target, Workflow.GatedBy steps source.id branches target →
          (target ∈ branchSkipped ↔ ∀ branch ∈ branches, branch ∉ names) := by
    obtain ⟨signal, given, selects⟩ :=
      selects_of_succeeded compiles unstopped declared running succeeded
    refine ⟨_, signal.names, Json.Object.configuredBy_iff.mpr rfl, selects,
      fun branches target gated => ?_⟩
    rw [skipped branches target gated, output?_of_succeeded compiles unstopped succeeded]
    simp [given]
  refine ⟨selected, ?_, ?_⟩
  · intro lost branches target gated
    rw [skipped branches target gated, output?_of_failed_or_skipped compiles lost]
    exact nofun
  · intro binary output succeeded yes no gatedYes gatedNo
    obtain ⟨_, names, _, selects, reached⟩ := selected output succeeded
    rw [reached _ _ gatedYes, reached _ _ gatedNo]
    cases selects with
    | matching => exact absurd rfl binary
    | @truth _ _ result told => cases result <;> simp

/-- A gate whose id reads like a handle, with a node behind either branch. -/
def signpostSteps : List Workflow.BuildStep :=
  [.node "a-output-false" "boolean_gateway", .node "-output-" "boolean_gateway",
    .node "b" "boolean_gateway", .trigger "a-output-false" "true" "-output-",
    .trigger "a-output-false" "false" "b"]

def signpostRequest : RunRequest :=
  .ofWorkflow (.build "signpost" "" signpostSteps) "" [("value", .bool true)]

theorem orchestrate_branching_signpost :
    let order := ["a-output-false", "-output-", "b"]
    let compiled := signpostRequest.workflow.assemble order
    let final := gateways.final signpostRequest compiled () ()
    signpostRequest.workflow.compile = .ok compiled ∧
      "b" ∈ final.ledger.branchSkipped ∧ "-output-" ∉ final.ledger.branchSkipped := by
  intro order compiled final
  have compiles : signpostRequest.workflow.compile = .ok compiled := by decide +kernel
  have completed : (gateways.orchestrate signpostRequest () ()).1.status = .completed := by
    decide +kernel
  have declared : ⟨"a-output-false", "boolean_gateway", .null, none⟩ ∈
      signpostRequest.workflow.nodes := by
    decide
  have succeeded : (gateways.orchestrate signpostRequest () ()).1.Succeeded "a-output-false"
      (branchOn true "value" (.bool true)) := by
    unfold RunResponse.Succeeded
    decide +kernel
  have onward : Workflow.GatedBy signpostSteps "a-output-false" ["true"] "-output-" :=
    .of_gates (by decide) (by decide) (by decide)
  have aside : Workflow.GatedBy signpostSteps "a-output-false" ["false"] "b" :=
    .of_gates (by decide) (by decide) (by decide)
  obtain ⟨selected, _, either⟩ :=
    orchestrate_branching .boolean rfl compiles completed declared rfl
  obtain ⟨_, names, _, selects, reached⟩ := selected _ succeeded
  have taken : names = ["true"] := by
    cases selects with
    | @truth _ _ result told =>
        have positive : result = true := by
          revert told
          cases result <;> decide
        rw [positive]
        rfl
  have skipped := (reached _ _ aside).mpr (by simp [taken])
  exact ⟨compiles, skipped,
    fun other => (either nofun _ succeeded _ _ onward aside).mp other skipped⟩

end Orchestrator

end Flowline
