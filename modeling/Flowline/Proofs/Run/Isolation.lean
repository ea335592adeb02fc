import Flowline.Proofs.Run.Meaning
import Flowline.Proofs.Run.Reordering

/-!
How far a change to one node reaches. With failures tolerated, another type or configuration of a
node makes no difference to the nodes that no path of edges leads to from it.
-/

namespace Flowline

namespace Workflow

/-- No path of edges leads from `changed` to the node, which is another one. -/
structure Untouched (workflow : Workflow) (changed id : NodeId) : Prop where
  other : id ≠ changed
  unreached : ¬ Relation.TransGen (Joined workflow.resolvedEdges) changed id

/-- The same ids in the same order, and the same nodes under all of them but one. -/
def AlikeApart (changed : NodeId) (nodes others : List Node) : Prop :=
  List.Forall₂ (fun node other => other.id = node.id ∧ (node.id ≠ changed → other = node))
    nodes others

variable {workflow : Workflow} {changed : NodeId} {nodes others : List Node}

theorem Untouched.source {source target : NodeId}
    (joined : Joined workflow.resolvedEdges source target)
    (untouched : workflow.Untouched changed target) : workflow.Untouched changed source where
  other same := untouched.unreached (same ▸ .single joined)
  unreached path := untouched.unreached (path.tail joined)

theorem AlikeApart.ids (alike : AlikeApart changed nodes others) :
    others.map Node.id = nodes.map Node.id := by
  induction alike with
  | nil => rfl
  | cons same _ ih => rw [List.map_cons, List.map_cons, same.1, ih]

theorem AlikeApart.mem (alike : AlikeApart changed nodes others) {node : Node}
    (declared : node ∈ nodes) (apart : node.id ≠ changed) : node ∈ others := by
  induction alike with
  | nil => exact declared
  | cons same _ ih =>
      rcases List.mem_cons.mp declared with rfl | later
      · rw [same.2 apart]
        exact List.mem_cons_self
      · exact List.mem_cons_of_mem _ (ih later)

theorem order_of_alike {compiled otherCompiled : CompiledWorkflow}
    (alike : AlikeApart changed workflow.nodes nodes)
    (compiles : workflow.compile = .ok compiled)
    (otherCompiles : (workflow.withNodes nodes).compile = .ok otherCompiled) :
    otherCompiled.plan.order = compiled.plan.order := by
  obtain ⟨_, _, order, found, rfl⟩ := compile_eq_ok_iff.mp compiles
  obtain ⟨_, _, otherOrder, otherFound, rfl⟩ := compile_eq_ok_iff.mp otherCompiles
  have sameIds : (workflow.withNodes nodes).nodeIds = workflow.nodeIds := alike.ids
  have sameEdges : (workflow.withNodes nodes).resolvedEdges = workflow.resolvedEdges := rfl
  rw [sameIds, sameEdges, found] at otherFound
  exact (Except.ok.inj otherFound).symm

end Workflow

variable {σ τ β : Type}

theorem RunState.filter_postings {compiled : CompiledWorkflow} {state : RunState σ τ}
    {post : PlannedNode → Fate → List β} {order : List NodeId} (key : β → NodeId)
    (keyed : ∀ node fate, ∀ item ∈ post node fate, key item = node.node)
    (planned : ∀ id ∈ order, ∃ node, compiled.node? id = some node ∧ node.node = id)
    (wanted : NodeId → Bool) :
    (order.flatMap (state.posting compiled post)).filter (fun item => wanted (key item)) =
      order.flatMap fun id => if wanted id then state.posting compiled post id else [] := by
  rw [List.filter_flatMap]
  refine List.flatMap_congr fun id placed => ?_
  obtain ⟨node, found, rfl⟩ := planned id placed
  have keys : ∀ item ∈ state.posting compiled post node.node, key item = node.node := by
    intro item member
    rw [RunState.posting, found] at member
    cases settled : state.ledger.fate? node.node with
    | none => simp [settled] at member
    | some fate =>
        rw [settled] at member
        exact keyed node fate item member
  by_cases want : wanted node.node = true
  · rw [if_pos want, List.filter_eq_self]
    intro item member
    rw [keys item member, want]
  · rw [if_neg want, List.filter_eq_nil_iff]
    intro item member
    rw [keys item member]
    exact want

namespace Orchestrator

variable {orchestrator : Orchestrator σ τ} {request : RunRequest} {nodes : List Workflow.Node}
  {changed : NodeId} {compiled otherCompiled : CompiledWorkflow} {world otherWorld : σ}
  {observer otherObserver : τ}

section Untouched

variable (alike : Workflow.AlikeApart changed request.workflow.nodes nodes)
  (compiles : request.workflow.compile = .ok compiled)
  (otherCompiles : (request.withNodes nodes).workflow.compile = .ok otherCompiled)
  (functional : orchestrator.registry.Functional)
  (tolerant : (orchestrator.setup request.options).settings.continueOnError = true)

include alike compiles otherCompiles functional tolerant

theorem fate?_of_untouched {id : NodeId} (untouched : request.workflow.Untouched changed id) :
    (orchestrator.final (request.withNodes nodes) otherCompiled otherWorld
        otherObserver).ledger.fate? id =
      (orchestrator.final request compiled world observer).ledger.fate? id := by
  by_cases placed : id ∈ compiled.plan.order
  · exact fate?_withNodes_of_closed (request.workflow.Untouched changed)
      (fun _ _ joined untouched => untouched.source joined)
      (fun _ declared untouched => alike.mem declared untouched.other) compiles otherCompiles
      functional tolerant placed untouched
  · have otherAbsent : id ∉ otherCompiled.plan.order := by
      rw [Workflow.order_of_alike alike compiles otherCompiles]
      exact placed
    rw [fate?_final_eq_none compiles placed, fate?_final_eq_none otherCompiles otherAbsent]

theorem postings_of_untouched [DecidablePred (request.workflow.Untouched changed)]
    {post : PlannedNode → Fate → List β} (key : β → NodeId)
    (keyed : ∀ node fate, ∀ item ∈ post node fate, key item = node.node)
    (unindexed : ∀ node other fate, node.node = other.node → node.type = other.type →
      post node fate = post other fate) :
    (otherCompiled.plan.order.flatMap ((orchestrator.final (request.withNodes nodes) otherCompiled
        otherWorld otherObserver).posting otherCompiled post)).filter
          (fun item => request.workflow.Untouched changed (key item)) =
      (compiled.plan.order.flatMap ((orchestrator.final request compiled world
        observer).posting compiled post)).filter
          (fun item => request.workflow.Untouched changed (key item)) := by
  rw [RunState.filter_postings key keyed (Workflow.planned_order compiles)
      (fun id => request.workflow.Untouched changed id),
    RunState.filter_postings key keyed (Workflow.planned_order otherCompiles)
      (fun id => request.workflow.Untouched changed id),
    Workflow.order_of_alike alike compiles otherCompiles]
  refine List.flatMap_congr fun id placed => ?_
  by_cases untouched : request.workflow.Untouched changed id
  · obtain ⟨node, declared, rfl⟩ := (Workflow.mem_order compiles).mp placed
    have sameFate : (orchestrator.final (request.withNodes nodes) otherCompiled otherWorld
        otherObserver).ledger.fate? node.id =
          (orchestrator.final request compiled world observer).ledger.fate? node.id :=
      fate?_of_untouched alike compiles otherCompiles functional tolerant untouched
    rw [decide_eq_true untouched, if_pos rfl, if_pos rfl]
    exact posting_withNodes compiles otherCompiles declared
      (alike.mem declared untouched.other) sameFate unindexed
  · rw [decide_eq_false untouched, if_neg Bool.false_ne_true, if_neg Bool.false_ne_true]

end Untouched

/-- Whatever becomes of a node whose type or configuration is changed, the nodes that no path of
edges leads to from it fare as before, and the responses agree on them. -/
theorem orchestrate_isolated (orchestrator : Orchestrator σ τ) (request : RunRequest)
    (nodes : List Workflow.Node) (changed : NodeId)
    (alike : Workflow.AlikeApart changed request.workflow.nodes nodes)
    (compiles : request.workflow.compile = .ok compiled)
    (otherCompiles : (request.withNodes nodes).workflow.compile = .ok otherCompiled)
    (functional : orchestrator.registry.Functional)
    (tolerant : (orchestrator.setup request.options).settings.continueOnError = true)
    (world otherWorld : σ) (observer otherObserver : τ)
    [DecidablePred (request.workflow.Untouched changed)] :
    (∀ id, request.workflow.Untouched changed id →
      (orchestrator.final (request.withNodes nodes) otherCompiled otherWorld
          otherObserver).ledger.fate? id =
        (orchestrator.final request compiled world observer).ledger.fate? id) ∧
      let response := (orchestrator.orchestrate request world observer).1
      let other := (orchestrator.orchestrate (request.withNodes nodes) otherWorld
        otherObserver).1
      (other.results.filter fun result =>
          request.workflow.Untouched changed result.node).map NodeResult.unplaced =
        (response.results.filter fun result =>
          request.workflow.Untouched changed result.node).map NodeResult.unplaced ∧
      (other.skipped.filter fun id => request.workflow.Untouched changed id) =
        (response.skipped.filter fun id => request.workflow.Untouched changed id) ∧
      (other.failed.filter fun id => request.workflow.Untouched changed id) =
        (response.failed.filter fun id => request.workflow.Untouched changed id) := by
  refine ⟨fun id => fate?_of_untouched alike compiles otherCompiles functional tolerant, ?_⟩
  have unstopped := isStopped_final orchestrator world observer compiles tolerant
  have otherUnstopped :=
    isStopped_final orchestrator otherWorld otherObserver otherCompiles tolerant
  rw [orchestrate_compiled compiles, orchestrate_compiled otherCompiles]
  refine ⟨?_, ?_, ?_⟩
  · have filtered (results : List NodeResult) :
        (results.filter fun result =>
            request.workflow.Untouched changed result.node).map NodeResult.unplaced =
          (results.map NodeResult.unplaced).filter fun result =>
            request.workflow.Untouched changed result.node := by
      rw [List.filter_map]
      rfl
    rw [filtered, filtered]
    simp only [RunResponse.ofLedger, results_final compiles unstopped,
      results_final otherCompiles otherUnstopped]
    refine postings_of_untouched alike compiles otherCompiles functional tolerant
      NodeResult.node ?_ ?_
    · intro node fate result member
      obtain ⟨posted, found, rfl⟩ := List.mem_map.mp member
      obtain ⟨outcome, _, rfl⟩ := Fate.mem_results.mp found
      rfl
    · intro node other fate sameNode sameType
      rw [Fate.results, Fate.results, sameNode, sameType]
  · simp only [RunResponse.ofLedger, skipped_final compiles unstopped,
      skipped_final otherCompiles otherUnstopped]
    refine postings_of_untouched alike compiles otherCompiles functional tolerant id ?_ ?_
    · intro node fate skipped member
      exact (Fate.mem_skips.mp member).2
    · intro node other fate sameNode _
      rw [Fate.skips, Fate.skips, sameNode]
  · simp only [RunResponse.ofLedger, failed_final compiles unstopped,
      failed_final otherCompiles otherUnstopped]
    refine postings_of_untouched alike compiles otherCompiles functional tolerant id ?_ ?_
    · intro node fate failed member
      exact (Fate.mem_failures.mp member).2
    · intro node other fate sameNode _
      rw [Fate.failures, Fate.failures, sameNode]

/-- The fork with the node of unknown type turned into a gate. -/
def mended : List Workflow.Node :=
  forked.nodes.map fun node =>
    if node.id = "lost" then { node with type := "boolean_gateway" } else node

theorem untouched_yes : forked.Untouched "lost" "yes" where
  other := by decide
  unreached := by
    intro path
    have behind : ∀ id, Relation.TransGen (Joined forked.resolvedEdges) "lost" id →
        id = "late" := by
      intro id path
      induction path with
      | single joined =>
          obtain ⟨edge, listed, source, rfl⟩ := joined
          revert source
          revert edge
          decide
      | tail _ joined ih =>
          obtain ⟨edge, listed, source, rfl⟩ := joined
          rw [ih] at source
          revert source
          revert edge
          decide
    exact absurd (behind "yes" path) (by decide)

/-- Mending the lost node leaves the nodes behind the gate as they are. -/
theorem orchestrate_isolated_forked :
    Workflow.AlikeApart "lost" forkedRequest.workflow.nodes mended ∧
      forkedRequest.workflow.compile = .ok (forked.assemble forkedOrder) ∧
      (forkedRequest.withNodes mended).workflow.compile =
        .ok ((forked.withNodes mended).assemble forkedOrder) ∧
      gateways.registry.Functional ∧
      (gateways.setup forkedRequest.options).settings.continueOnError = true ∧
      (gateways.final (forkedRequest.withNodes mended)
          ((forked.withNodes mended).assemble forkedOrder) () ()).ledger.fate? "yes" =
        (gateways.final forkedRequest (forked.assemble forkedOrder) () ()).ledger.fate? "yes" := by
  have alike : Workflow.AlikeApart "lost" forkedRequest.workflow.nodes mended := by
    refine List.forall₂_map_right_iff.mpr (List.forall₂_same.mpr ?_)
    decide
  have compiles : forkedRequest.workflow.compile = .ok (forked.assemble forkedOrder) := by
    decide +kernel
  have otherCompiles : (forkedRequest.withNodes mended).workflow.compile =
      .ok ((forked.withNodes mended).assemble forkedOrder) := by
    decide +kernel
  have functional : gateways.registry.Functional :=
    Registry.functional_empty.register ⟨fun _ _ _ => rfl, fun _ _ _ _ => rfl⟩
  have decidable := Classical.decPred (forked.Untouched "lost")
  obtain ⟨fares, _⟩ := @orchestrate_isolated _ _ _ _ gateways forkedRequest mended "lost" alike
    compiles otherCompiles functional rfl () () () () decidable
  exact ⟨alike, compiles, otherCompiles, functional, rfl, fares "yes" untouched_yes⟩

end Orchestrator

end Flowline
