import Flowline.Proofs.Run.Accounts
import Flowline.Proofs.Run.Gathering
import Flowline.Proofs.Validation.Agreement
import Flowline.Workflow.Building

/-!
Validation against the run, as to required inputs. Validation is content with a required input that
is fed or configured, while a run looks for it among the inputs alone: a node whose sources have all
delivered is refused for just those required inputs that are configured and not fed.
-/

namespace Flowline

variable {σ τ : Type}

namespace Workflow

variable {workflow : Workflow} {compiled : CompiledWorkflow}

theorem map_targetInput_inputsOf (compiles : workflow.compile = .ok compiled) (id : NodeId) :
    ((compiled.plan.inputsOf id).filter InputMapping.isData).map InputMapping.targetInput =
      fedPorts workflow.resolvedEdges id := by
  have data (edge : ResolvedEdge) : edge.toInput.isData = !edge.isTrigger := by
    change (edge.kind == .data) = !(edge.kind == .trigger)
    cases edge.kind <;> rfl
  rw [inputsOf_compiled compiles, List.filter_map, List.map_map, List.filter_filter]
  refine congrArg (List.map _) (List.filter_congr fun edge _ => ?_)
  rw [Function.comp_apply, data]

/-- What a valid workflow does not feed to a node it has configured. -/
theorem configured_of_valid {registry : Registry σ}
    (valid : workflow.validate (some registry) = []) {node : Node}
    (declared : node ∈ workflow.nodes) {descriptor : Descriptor}
    (described : registry.descriptor? node.type = some descriptor)
    (fed : fedPorts workflow.resolvedEdges node.id ≠ [])
    (apart : defaultPort ∉ fedPorts workflow.resolvedEdges node.id) {port : PortId}
    (required : port ∈ descriptor.requiredInputs)
    (unfed : port ∉ fedPorts workflow.resolvedEdges node.id) :
    isConfigured node port = true := by
  have faultless := (List.append_eq_nil_iff.mp (List.append_eq_nil_iff.mp valid).2).2
  have none := List.flatMap_eq_nil_iff.mp faultless node declared
  have checked : ¬ ((fedPorts workflow.resolvedEdges node.id).isEmpty ||
      (fedPorts workflow.resolvedEdges node.id).contains defaultPort) = true := by
    simp [fed, apart]
  rw [inputErrors, if_neg checked, described] at none
  by_contra bare
  refine List.filter_eq_nil_iff.mp (List.map_eq_nil_iff.mp none) port required ?_
  simp [Bool.eq_false_of_not_eq_true bare, unfed]

end Workflow

theorem Registry.attempt_refuses_iff {registry : Registry σ} {node : PlannedNode}
    {inputs : Json.Object} {world : σ} {processor : Processor σ}
    (registered : registry.processor? node.type = some processor)
    (standard : processor.accepts = fun inputs _ => processor.descriptor.inputsPresent inputs)
    {missing : List PortId} :
    (registry.attempt node inputs world).1 = .error (.refusedInputs missing) ↔
      missing = processor.descriptor.missingInputs inputs ∧ missing ≠ [] := by
  have present : processor.accepts inputs world = true ↔
      processor.descriptor.missingInputs inputs = [] := by
    simp [standard, Descriptor.inputsPresent, Descriptor.missingInputs]
  unfold attempt
  simp only [registered]
  split
  · rename_i accepted
    refine iff_of_false ?_ ?_
    · cases (processor.process inputs (Json.Object.ofConfig node.config) world).1 <;>
        simp [Except.map, Except.mapError]
    · rintro ⟨rfl, lacking⟩
      exact lacking (present.mp accepted)
  · rename_i refused
    simp only [Except.error.injEq, NodeFault.refusedInputs.injEq]
    constructor
    · rintro rfl
      exact ⟨rfl, mt present.mpr refused⟩
    · exact fun same => same.1.symm

/-- Whatever data edge leads to the node, its source has an output and there is a value in it. -/
def Delivered (mappings : List InputMapping) (outputs : NodeId → Option Output) : Prop :=
  ∀ mapping ∈ mappings, mapping.kind = .data →
    ∃ output, outputs mapping.source = some output ∧
      (InputResolution.carried mapping output).isNull = false

namespace Orchestrator

variable {orchestrator : Orchestrator σ τ} {request : RunRequest} {compiled : CompiledWorkflow}
  {world : σ} {observer : τ} {node : Workflow.Node}

/-- Also in a run that was stopped, a result is what the final state decides on. -/
theorem outcome_of_mem_results (compiles : request.workflow.compile = .ok compiled)
    (declared : node ∈ request.workflow.nodes) {result : NodeResult}
    (member : result ∈ (orchestrator.final request compiled world observer).ledger.results)
    (same : result.node = node.id) :
    ∃ index world', .finished result.outcome =
      ((orchestrator.setup request.options).settle
        (Workflow.plannedNode (Workflow.inputMappings request.workflow.resolvedEdges) index node)
        world'
        (decideNode (compiled.plan.inputsOf node.id)
          (orchestrator.final request compiled world observer).context
          (orchestrator.final request compiled world observer).ledger.branchSkipped)).1 := by
  obtain ⟨index, found⟩ := Workflow.node?_compiled compiles declared
  have settled := ((accounts_visited compiles).fate?_eq_finished_iff (gated_final compiles)).mpr
    ⟨result, member, same, rfl⟩
  exact ⟨index, RunSetup.fate?_walk_of_settled (pending_start compiles world observer) settled
    ((Workflow.mem_order compiles).mpr ⟨node, declared, rfl⟩) found⟩

section Delivered

variable (compiles : request.workflow.compile = .ok compiled)
  (fed : Workflow.fedPorts request.workflow.resolvedEdges node.id ≠ [])
  (delivered : Delivered (compiled.plan.inputsOf node.id)
    (orchestrator.final request compiled world observer).context.output?)

include compiles fed delivered

theorem ready_of_delivered :
    ∃ inputs,
      resolveInputs (compiled.plan.inputsOf node.id)
          (orchestrator.final request compiled world observer).context
          (orchestrator.final request compiled world observer).ledger.branchSkipped =
        .ready inputs ∧
      ∀ port, Json.Object.hasValue inputs port = true ↔
        port ∈ Workflow.fedPorts request.workflow.resolvedEdges node.id := by
  rw [← Workflow.map_targetInput_inputsOf compiles] at fed ⊢
  refine resolveInputs_supplied (mt List.map_eq_nil_iff.mpr fed) fun mapping member data => ?_
  exact delivered mapping member (eq_of_beq data)

theorem refused_iff (declared : node ∈ request.workflow.nodes) {processor : Processor σ}
    (registered : orchestrator.registry.processor? node.type = some processor)
    (standard : processor.accepts = fun inputs _ => processor.descriptor.inputsPresent inputs)
    {result : NodeResult}
    (member : result ∈ (orchestrator.final request compiled world observer).ledger.results)
    (same : result.node = node.id) {missing : List PortId} :
    result.outcome = .error (.refusedInputs missing) ↔
      missing = processor.descriptor.requiredInputs.filter (fun port =>
          !(Workflow.fedPorts request.workflow.resolvedEdges node.id).contains port) ∧
        missing ≠ [] := by
  obtain ⟨inputs, ready, present⟩ := ready_of_delivered compiles fed delivered
  obtain ⟨index, world', outcome⟩ := outcome_of_mem_results compiles declared member same
  have lacking : processor.descriptor.missingInputs inputs =
      processor.descriptor.requiredInputs.filter fun port =>
        !(Workflow.fedPorts request.workflow.resolvedEdges node.id).contains port := by
    refine List.filter_congr fun port _ => congrArg not ?_
    rw [Bool.eq_iff_iff, present, List.contains_iff_mem]
  unfold decideNode at outcome
  rw [ready] at outcome
  split at outcome
  · cases outcome
  · have replied : result.outcome = (orchestrator.registry.attempt
        (Workflow.plannedNode (Workflow.inputMappings request.workflow.resolvedEdges) index node)
        inputs world').1 := Fate.finished.inj outcome
    rw [replied, ← lacking]
    exact Registry.attempt_refuses_iff registered standard

end Delivered

/-- In a run of a valid workflow, a node whose sources have all delivered is refused for its inputs
if and only if one of those that it requires is configured and not fed. -/
theorem orchestrate_validated (orchestrator : Orchestrator σ τ) (request : RunRequest)
    (valid : request.workflow.validate (some orchestrator.registry) = []) (world : σ)
    (observer : τ) :
    ∃ compiled, request.workflow.compile = .ok compiled ∧
      ∀ node ∈ request.workflow.nodes, ∀ processor,
        orchestrator.registry.processor? node.type = some processor →
        orchestrator.registry.descriptor? node.type = some processor.descriptor →
        processor.accepts = (fun inputs _ => processor.descriptor.inputsPresent inputs) →
        let response := (orchestrator.orchestrate request world observer).1
        let final := orchestrator.final request compiled world observer
        let fed := Workflow.fedPorts request.workflow.resolvedEdges node.id
        let unfed := processor.descriptor.requiredInputs.filter fun port => !fed.contains port
        fed ≠ [] → defaultPort ∉ fed →
        Delivered (compiled.plan.inputsOf node.id) final.context.output? →
          (∃ inputs,
            resolveInputs (compiled.plan.inputsOf node.id) final.context
                final.ledger.branchSkipped = .ready inputs ∧
              ∀ port, Json.Object.hasValue inputs port = true ↔ port ∈ fed) ∧
          (∀ port ∈ unfed, Workflow.isConfigured node port = true) ∧
          ∀ result ∈ response.results, result.node = node.id → ∀ missing,
            result.outcome = .error (.refusedInputs missing) ↔
              missing = unfed ∧ missing ≠ [] := by
  obtain ⟨compiled, compiles⟩ :=
    Workflow.structuralErrors_eq_nil_iff.mp (List.append_eq_nil_iff.mp valid).1
  refine ⟨compiled, compiles, ?_⟩
  intro node declared processor registered described standard response final fed unfed some apart
    delivered
  refine ⟨ready_of_delivered compiles some delivered, ?_, ?_⟩
  · intro port member
    obtain ⟨required, absent⟩ := List.mem_filter.mp member
    exact Workflow.configured_of_valid valid declared described some apart required
      (by simpa using absent)
  · intro result member same missing
    simp only [response, orchestrate_compiled compiles] at member
    exact refused_iff compiles some delivered declared registered standard member same

/-- Puts out its configuration. -/
def sample : Processor Unit :=
  .pure ⟨"sample", .processing, "Sample", "", [], [], []⟩ fun _ config => .ok { data := config }

/-- Hands on its inputs, of which it requires a text and a title. -/
def caption : Processor Unit :=
  .pure
    ⟨"caption", .processing, "Caption", "",
      [.mandatory "text" "Text" .any, .mandatory "title" "Title" .any], [], []⟩
    fun inputs _ => .ok { data := inputs }

def captions : Orchestrator Unit Unit where
  registry := Registry.registerAll .empty [sample, caption]
  sink := .silent

/-- A sample that feeds some ports of a caption. -/
def captioned (given kept : List (String × Json)) (ports : List PortId) : Workflow :=
  .build "captioned" "" <|
    [.node "sample" "sample", .config (Json.ofFields given), .node "caption" "caption",
      .config (Json.ofFields kept)] ++
    ports.map fun port => .edge "sample" port "caption" port

def captionOrder : List NodeId := ["sample", "caption"]

/-- With both inputs fed, the caption is not refused. -/
theorem orchestrate_validated_captioned :
    let workflow := captioned [("text", .string "hi"), ("title", .string "x")] [] ["text", "title"]
    let response := (captions.orchestrate (.ofWorkflow workflow) () ()).1
    workflow.validate (some captions.registry) = [] ∧
      ∀ result ∈ response.results, result.node = "caption" → ∀ missing,
        result.outcome ≠ .error (.refusedInputs missing) := by
  intro workflow response
  have valid : workflow.validate (some captions.registry) = [] := by decide +kernel
  have compiles : workflow.compile = .ok (workflow.assemble captionOrder) := by decide +kernel
  have inputs : (workflow.assemble captionOrder).plan.inputsOf "caption" =
      [⟨.data, "sample", some "text", "text", "edge-1"⟩,
        ⟨.data, "sample", some "title", "title", "edge-2"⟩] := by
    decide +kernel
  have recorded : (captions.final (.ofWorkflow workflow) (workflow.assemble captionOrder) ()
      ()).context.output? "sample" =
        some { data := [("text", .string "hi"), ("title", .string "x")] } := by
    decide +kernel
  have declared : ⟨"caption", "caption", .object [], none⟩ ∈ workflow.nodes := by decide +kernel
  have fed : Workflow.fedPorts workflow.resolvedEdges "caption" = ["text", "title"] := by
    decide +kernel
  refine ⟨valid, ?_⟩
  obtain ⟨compiled, same, supply⟩ :=
    orchestrate_validated captions (.ofWorkflow workflow) valid () ()
  cases compiles.symm.trans same
  have delivered : Delivered ((workflow.assemble captionOrder).plan.inputsOf "caption")
      (captions.final (.ofWorkflow workflow) (workflow.assemble captionOrder) ()
        ()).context.output? := by
    intro mapping member _
    simp only [inputs, List.mem_cons, List.not_mem_nil, or_false] at member
    rcases member with rfl | rfl <;> exact ⟨_, recorded, rfl⟩
  have apart : Workflow.fedPorts workflow.resolvedEdges "caption" ≠ [] ∧
      defaultPort ∉ Workflow.fedPorts workflow.resolvedEdges "caption" := by
    rw [fed]
    decide
  obtain ⟨_, _, refused⟩ := supply _ declared caption rfl rfl rfl apart.1 apart.2 delivered
  intro result member same missing refusal
  obtain ⟨rfl, lacking⟩ := (refused result member same missing).mp refusal
  refine lacking ?_
  change List.filter (fun port =>
    !(Workflow.fedPorts workflow.resolvedEdges "caption").contains port) ["text", "title"] = []
  rw [fed]
  decide

/-- The caption's title is configured, which validation is content with; its text is delivered; and
it is refused for want of a title. -/
theorem caption_refused :
    let workflow := captioned [("text", .string "hi")] [("title", .string "x")] ["text"]
    let request := RunRequest.ofWorkflow workflow
    let compiled := workflow.assemble captionOrder
    workflow.validate (some captions.registry) = [] ∧ workflow.compile = .ok compiled ∧
      captions.registry.processor? "caption" = some caption ∧
      captions.registry.descriptor? "caption" = some caption.descriptor ∧
      caption.accepts = (fun inputs _ => caption.descriptor.inputsPresent inputs) ∧
      Workflow.fedPorts workflow.resolvedEdges "caption" = ["text"] ∧
      Delivered (compiled.plan.inputsOf "caption")
        (captions.final request compiled () ()).context.output? ∧
      ∃ result ∈ (captions.orchestrate request () ()).1.results, result.node = "caption" ∧
        result.outcome = .error (.refusedInputs ["title"]) := by
  intro workflow request compiled
  have inputs : compiled.plan.inputsOf "caption" =
      [⟨.data, "sample", some "text", "text", "edge-1"⟩] := by
    decide +kernel
  have recorded : (captions.final request compiled () ()).context.output? "sample" =
      some { data := [("text", .string "hi")] } := by
    decide +kernel
  refine ⟨by decide +kernel, by decide +kernel, rfl, rfl, rfl, by decide +kernel, ?_,
    by decide +kernel⟩
  intro mapping member _
  rw [inputs, List.mem_singleton] at member
  subst member
  exact ⟨_, recorded, rfl⟩

end Orchestrator

end Flowline
