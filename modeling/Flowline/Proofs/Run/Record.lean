import Flowline.Proofs.Run.Accounts

/-!
The record of a run against its books, at every point of the run. A context is told by what was
recorded in it one after another, and what a walk records are the outputs of the results that are
successes. A point of a run is the state that it is in once some first nodes of the order have been
dealt with; what is on record at one point is still there at a later one.
-/

namespace Flowline

namespace NodeResult

/-- The outputs of the results that are successes, each under its node. -/
def outputs (results : List NodeResult) : List (NodeId × Output) :=
  results.filterMap fun result => result.outcome.toOption.map (result.node, ·)

theorem outputs_append (results others : List NodeResult) :
    outputs (results ++ others) = outputs results ++ outputs others :=
  List.filterMap_append

theorem map_fst_outputs (results : List NodeResult) :
    (outputs results).map Prod.fst = (results.filter isSuccess).map node := by
  induction results with
  | nil => rfl
  | cons result rest ih =>
      unfold outputs at ih ⊢
      rw [List.filterMap_cons, List.filter_cons]
      cases outcome : result.outcome with
      | ok output => simpa [isSuccess, outcome, Except.toOption, Except.toBool] using ih
      | error fault => simpa [isSuccess, outcome, Except.toOption, Except.toBool] using ih

theorem mem_outputs {results : List NodeResult} {result : NodeResult} {output : Output}
    (member : result ∈ results) (succeeded : result.outcome = .ok output) :
    (result.node, output) ∈ outputs results :=
  List.mem_filterMap.mpr ⟨result, member, by rw [succeeded]; rfl⟩

end NodeResult

namespace Context

variable {origin : Context} {recorded : List (NodeId × Output)} {node : NodeId}

/-- The context `origin` with other outputs on record. -/
def holding (origin : Context) (recorded : List (NodeId × Output)) : Context :=
  { origin with outputs := Entries.ofList recorded, completed := recorded.map Prod.fst }

theorem holding_create (workflowId pipelineId : String) (initialData : Json.Object) :
    (create workflowId pipelineId initialData).holding [] =
      create workflowId pipelineId initialData := rfl

theorem holding_concat (origin : Context) (recorded : List (NodeId × Output)) (node : NodeId)
    (output : Output) :
    origin.holding (recorded ++ [(node, output)]) =
      { origin with
        outputs := Entries.insert (Entries.ofList recorded) node output
        completed := recorded.map Prod.fst ++ [node] } := by
  rw [holding, Entries.ofList_concat, List.map_append]
  rfl

theorem enter_holding (origin : Context) (recorded : List (NodeId × Output)) (context : Context)
    (node : PlannedNode) (fate : Fate) :
    (origin.holding recorded).enter node.node fate =
      origin.holding (recorded ++ NodeResult.outputs (fate.results context node)) := by
  have unchanged : origin.holding recorded = origin.holding (recorded ++ []) := by
    rw [List.append_nil]
  cases fate with
  | branchSkipped => exact unchanged
  | dependencySkipped => exact unchanged
  | finished outcome =>
      cases outcome with
      | error fault => exact unchanged
      | ok output =>
          exact (origin.holding_concat recorded node.node output).symm

theorem hasOutput_holding :
    (origin.holding recorded).hasOutput node = true ↔ node ∈ recorded.map Prod.fst := by
  rw [hasOutput, Entries.has_iff, holding, Entries.mem_keys_ofList]

/-- An output is recorded if its node has none yet, and refused otherwise. -/
theorem record_holding (origin : Context) (recorded : List (NodeId × Output)) (node : NodeId)
    (output : Output) :
    (origin.holding recorded).record node output =
      if node ∈ recorded.map Prod.fst then .error (.outputAlreadyRecorded node)
      else .ok (origin.holding (recorded ++ [(node, output)])) := by
  unfold record
  simp only [hasOutput_holding, holding_concat]
  rfl

/-- Records outputs one after another; what is refused leaves the context as it is. -/
def recordEach (context : Context) (updates : List (NodeId × Output)) : Context :=
  updates.foldl (fun context update =>
    match context.record update.1 update.2 with
    | .ok next => next
    | .error _ => context) context

theorem recordEach_holding (origin : Context) (recorded updates : List (NodeId × Output)) :
    ∃ kept, (origin.holding recorded).recordEach updates = origin.holding kept ∧
      ∀ id, id ∈ kept.map Prod.fst ↔
        id ∈ recorded.map Prod.fst ∨ id ∈ updates.map Prod.fst := by
  induction updates generalizing recorded with
  | nil => exact ⟨recorded, rfl, by simp⟩
  | cons update rest ih =>
      rw [recordEach, List.foldl_cons, record_holding]
      by_cases earlier : update.1 ∈ recorded.map Prod.fst
      · rw [if_pos earlier]
        obtain ⟨kept, holds, known⟩ := ih recorded
        refine ⟨kept, holds, fun id => ?_⟩
        rw [known, List.map_cons, List.mem_cons, or_left_comm]
        exact (or_iff_right_of_imp fun same => Or.inl (same ▸ earlier)).symm
      · rw [if_neg earlier]
        obtain ⟨kept, holds, known⟩ := ih (recorded ++ [update])
        refine ⟨kept, holds, fun id => ?_⟩
        rw [known, List.map_append, List.mem_append, List.map_cons, List.mem_cons, or_assoc]
        simp

/-- Whatever was tried, an output is refused if and only if its node is on record, which are the
nodes that came up before. -/
theorem record_recordEach (workflowId pipelineId : String) (initialData : Json.Object)
    (updates : List (NodeId × Output)) (node : NodeId) (output : Output) :
    let context := (create workflowId pipelineId initialData).recordEach updates
    ((∃ error, context.record node output = .error error) ↔ node ∈ context.completed) ∧
      (node ∈ context.completed ↔ node ∈ updates.map Prod.fst) := by
  intro context
  obtain ⟨kept, holds, known⟩ :=
    recordEach_holding (create workflowId pipelineId initialData) [] updates
  have reached : context = (create workflowId pipelineId initialData).holding kept := holds
  rw [reached, record_holding]
  refine ⟨?_, (known node).trans (or_iff_right List.not_mem_nil)⟩
  change _ ↔ node ∈ kept.map Prod.fst
  constructor
  · rintro ⟨error, refused⟩
    by_contra absent
    rw [if_neg absent] at refused
    cases refused
  · intro present
    exact ⟨_, if_pos present⟩

end Context

variable {σ τ : Type} {setup : RunSetup σ τ} {compiled : CompiledWorkflow}

namespace RunState

variable {origin : Context} {state : RunState σ τ}

/-- The context has on record what the results tell, and each result was entered knowing how much
was on record. -/
structure Keeps (origin : Context) (state : RunState σ τ) : Prop where
  context : state.context = origin.holding (NodeResult.outputs state.ledger.results)
  placed : ∀ before result, before ++ [result] <+: state.ledger.results →
    result.completedBefore = (before.filter NodeResult.isSuccess).length

theorem Keeps.length_completed (keeps : state.Keeps origin) :
    state.context.completed.length =
      (state.ledger.results.filter NodeResult.isSuccess).length := by
  rw [keeps.context]
  simp only [Context.holding, NodeResult.map_fst_outputs, List.length_map]

theorem Keeps.entered (keeps : state.Keeps origin) (setup : RunSetup σ τ) (node : PlannedNode)
    (fate : Fate) (world : σ) (observer : τ) :
    (setup.entered node fate state world observer).Keeps origin := by
  have results : (setup.entered node fate state world observer).ledger.results =
      state.ledger.results ++ fate.results state.context node :=
    Ledger.results_enter _ _ _ _
  refine ⟨?_, ?_⟩
  · rw [results, NodeResult.outputs_append, ← Context.enter_holding, ← keeps.context]
    rfl
  · rw [results]
    intro before result front
    cases outcome : fate.outcome? with
    | none =>
        rw [Fate.results, outcome, Option.map_none, Option.toList_none, List.append_nil] at front
        exact keeps.placed before result front
    | some outcome' =>
        rw [Fate.results, outcome, Option.map_some, Option.toList_some,
          List.prefix_concat_iff] at front
        rcases front with last | earlier
        · obtain ⟨rfl, same⟩ := List.append_inj' last rfl
          cases same
          exact keeps.length_completed
        · exact keeps.placed before result earlier

/-- What the record of a run looks like beside its results. -/
structure OnRecord (state : RunState σ τ) : Prop where
  distinct : state.context.completed.Nodup
  keys : (Entries.keys state.context.outputs).Perm state.context.completed
  completed : state.context.completed =
    (state.ledger.results.filter NodeResult.isSuccess).map NodeResult.node
  outputs : ∀ result ∈ state.ledger.results, ∀ output, result.outcome = .ok output →
    state.context.output? result.node = some output
  placed : ∀ before result, before ++ [result] <+: state.ledger.results →
    result.completedBefore = (before.filter NodeResult.isSuccess).length

theorem Keeps.exists_success (keeps : state.Keeps origin) {id : NodeId}
    (present : state.context.hasOutput id = true) :
    ∃ result ∈ state.ledger.results, result.node = id ∧ result.isSuccess = true := by
  rw [keeps.context, Context.hasOutput_holding, NodeResult.map_fst_outputs] at present
  obtain ⟨result, member, rfl⟩ := List.mem_map.mp present
  obtain ⟨listed, success⟩ := List.mem_filter.mp member
  exact ⟨result, listed, rfl, success⟩

theorem nodup_outputs (unique : (state.ledger.results.map NodeResult.node).Nodup) :
    ((NodeResult.outputs state.ledger.results).map Prod.fst).Nodup := by
  rw [NodeResult.map_fst_outputs]
  exact unique.sublist (List.filter_sublist.map _)

theorem Keeps.output?_eq_some_iff (keeps : state.Keeps origin)
    (unique : (state.ledger.results.map NodeResult.node).Nodup) {id : NodeId} {output : Output} :
    state.context.output? id = some output ↔
      (id, output) ∈ NodeResult.outputs state.ledger.results := by
  rw [keeps.context]
  exact ⟨Entries.mem_of_get?_ofList, Entries.get?_ofList_of_nodup (nodup_outputs unique)⟩

theorem Keeps.onRecord (keeps : state.Keeps origin)
    (unique : (state.ledger.results.map NodeResult.node).Nodup) : state.OnRecord where
  distinct := by
    rw [keeps.context]
    exact nodup_outputs unique
  keys := by
    rw [keeps.context]
    exact Entries.keys_ofList_perm (nodup_outputs unique)
  completed := by
    rw [← NodeResult.map_fst_outputs, keeps.context]
    rfl
  outputs := fun _ member _ succeeded =>
    (keeps.output?_eq_some_iff unique).mpr (NodeResult.mem_outputs member succeeded)
  placed := keeps.placed

end RunState

namespace Orchestrator

variable (orchestrator : Orchestrator σ τ) {request : RunRequest}

/-- Where the run is once the first `count` nodes of the order have been dealt with, or once it was
stopped before. -/
def point (request : RunRequest) (compiled : CompiledWorkflow) (world : σ) (observer : τ)
    (count : Nat) : RunState σ τ :=
  (orchestrator.setup request.options).walk compiled (compiled.plan.order.take count)
    (orchestrator.start request compiled world observer)

theorem point_length (request : RunRequest) (compiled : CompiledWorkflow) (world : σ)
    (observer : τ) :
    orchestrator.point request compiled world observer compiled.plan.order.length =
      orchestrator.final request compiled world observer := by
  rw [point, List.take_length, final]

theorem point_succ (request : RunRequest) (world : σ) (observer : τ) {count : Nat} {id : NodeId}
    {node : PlannedNode} (next : compiled.plan.order[count]? = some id)
    (found : compiled.node? id = some node) :
    orchestrator.point request compiled world observer (count + 1) =
      let here := orchestrator.point request compiled world observer count
      if here.ledger.isStopped then here
      else (orchestrator.setup request.options).visit (compiled.plan.inputsOf id) node here := by
  have front : compiled.plan.order.take (count + 1) = compiled.plan.order.take count ++ [id] := by
    rw [List.take_add_one, next, Option.toList_some]
  unfold point
  rw [front]
  cases stopped : ((orchestrator.setup request.options).walk compiled
      (compiled.plan.order.take count)
      (orchestrator.start request compiled world observer)).ledger.isStopped with
  | true =>
      rw [RunSetup.walk_append_of_stopped [id] rfl stopped]
      simp only [stopped, if_true]
  | false =>
      rw [RunSetup.walk_append [id] stopped, RunSetup.walk_cons _ _ _ found, RunSetup.walk,
        ite_self]
      simp only [stopped, Bool.false_eq_true, if_false]

section Compiled

variable (compiles : request.workflow.compile = .ok compiled) (world : σ) (observer : τ)

include compiles

theorem pending_take (count : Nat) :
    (orchestrator.start request compiled world observer).Pending compiled
      (compiled.plan.order.take count) := by
  have pending : (orchestrator.start request compiled world observer).Pending compiled
      compiled.plan.order := pending_start compiles world observer
  rw [← List.take_append_drop count compiled.plan.order] at pending
  exact pending.front

theorem point_keeps (count : Nat) :
    (orchestrator.point request compiled world observer count).Keeps
      (.create request.workflowId request.pipelineId request.initialData) := by
  refine RunSetup.walk_keeps
    (RunState.Keeps (.create request.workflowId request.pipelineId request.initialData))
    (fun node fate next world observer keeps => keeps.entered _ node fate world observer)
    (orchestrator.pending_take compiles world observer count) ⟨?_, ?_⟩
  · exact (Context.holding_create _ _ _).symm
  · intro before result front
    exact absurd (List.prefix_nil.mp front) (by simp)

theorem point_accounts (count : Nat) :
    ∃ visited, (orchestrator.point request compiled world observer count).ledger.Accounts
      visited := by
  have pending := orchestrator.pending_take compiles world observer count
  exact ⟨_, (orchestrator.setup request.options).accounts_visited pending Ledger.Accounts.start
    pending.unique⟩

theorem point_failed (count : Nat) :
    (orchestrator.point request compiled world observer count).ledger.failed =
      NodeResult.failures
        (orchestrator.point request compiled world observer count).ledger.results :=
  RunSetup.failures_walk (orchestrator.pending_take compiles world observer count) rfl

theorem point_extends {earlier later : Nat} (within : earlier ≤ later) :
    (orchestrator.point request compiled world observer earlier).Extends
      (orchestrator.point request compiled world observer later) := by
  have front : compiled.plan.order.take later = compiled.plan.order.take earlier ++
      (compiled.plan.order.drop earlier).take (later - earlier) := by
    rw [← List.take_add, Nat.add_sub_cancel' within]
  have pending := orchestrator.pending_take compiles world observer later
  unfold point
  rw [front] at pending ⊢
  exact RunSetup.walk_keeps_append
    (RunState.Extends (orchestrator.point request compiled world observer earlier))
    (fun node fate next world observer extended => extended.entered _ node fate world observer)
    pending rfl (RunState.Extends.refl _)

/-- What is on record stays on record as it is. -/
theorem output?_point {earlier later : Nat} (within : earlier ≤ later) {id : NodeId}
    {output : Output}
    (recorded : (orchestrator.point request compiled world observer earlier).context.output? id =
      some output) :
    (orchestrator.point request compiled world observer later).context.output? id =
      some output := by
  obtain ⟨_, before⟩ := orchestrator.point_accounts compiles world observer earlier
  obtain ⟨_, after⟩ := orchestrator.point_accounts compiles world observer later
  obtain ⟨added, grown⟩ := (orchestrator.point_extends compiles world observer within).results
  rw [(orchestrator.point_keeps compiles world observer earlier).output?_eq_some_iff
    before.nodup_executed] at recorded
  rw [(orchestrator.point_keeps compiles world observer later).output?_eq_some_iff
    after.nodup_executed, ← grown, NodeResult.outputs_append]
  exact List.mem_append_left _ recorded

/-- What is skipped or has failed at some point of a run is on record at none. -/
theorem not_hasOutput_point (early late : Nat) {id : NodeId}
    (unfinished :
      id ∈ (orchestrator.point request compiled world observer early).ledger.skipped ∨
        id ∈ (orchestrator.point request compiled world observer early).ledger.failed) :
    (orchestrator.point request compiled world observer late).context.hasOutput id = false := by
  by_contra present
  rw [Bool.not_eq_false] at present
  obtain ⟨result, member, rfl, succeeded⟩ :=
    (orchestrator.point_keeps compiles world observer late).exists_success present
  -- Both are in the books at the later one of the two points.
  have fromEarly :=
    orchestrator.point_extends compiles world observer (Nat.le_max_left early late)
  have fromLate :=
    orchestrator.point_extends compiles world observer (Nat.le_max_right early late)
  obtain ⟨_, accounts⟩ := orchestrator.point_accounts compiles world observer (max early late)
  have listed := fromLate.results.subset member
  rcases unfinished with skipped | failed
  · exact accounts.not_skipped listed (fromEarly.skipped.subset skipped)
  · have failedToo := fromEarly.failed.subset failed
    rw [orchestrator.point_failed compiles world observer] at failedToo
    obtain ⟨other, otherFailed, same⟩ := List.mem_map.mp failedToo
    obtain ⟨otherListed, unsuccessful⟩ := List.mem_filter.mp otherFailed
    have equal : other = result :=
      List.inj_on_of_nodup_map accounts.nodup_executed otherListed listed same
    rw [equal, succeeded] at unsuccessful
    contradiction

end Compiled

/-- At every point of a run between two visits the context has on record, in their order, the
results that are successes so far, each of which knows how many went before it. What is on record
stays as it is, what is skipped or fails is never recorded, and what the context was made with never
changes. Whichever outputs a context has been offered since it was made, it refuses a further one if
and only if it has one for that node. -/
theorem orchestrate_onRecord (compiles : request.workflow.compile = .ok compiled) (world : σ)
    (observer : τ) :
    let response := (orchestrator.orchestrate request world observer).1
    let point := orchestrator.point request compiled world observer
    let last := point compiled.plan.order.length
    (response.results = last.ledger.results ∧ response.skipped = last.ledger.skipped ∧
        response.failed = last.ledger.failed) ∧
      (∀ count id node, compiled.plan.order[count]? = some id → compiled.node? id = some node →
        point (count + 1) =
          if (point count).ledger.isStopped then point count
          else (orchestrator.setup request.options).visit (compiled.plan.inputsOf id) node
            (point count)) ∧
      (∀ count, (point count).OnRecord ∧
        (point count).context.workflowId = request.workflowId ∧
        (point count).context.pipelineId = request.pipelineId ∧
        (point count).context.initialData = request.initialData) ∧
      (∀ earlier later, earlier ≤ later → ∀ id output,
        (point earlier).context.output? id = some output →
          (point later).context.output? id = some output) ∧
      (∀ early late id,
        id ∈ (point early).ledger.skipped ∨ id ∈ (point early).ledger.failed →
          (point late).context.hasOutput id = false) ∧
      ∀ workflowId pipelineId initialData updates node output,
        let context :=
          (Context.create workflowId pipelineId initialData).recordEach updates
        ((∃ error, context.record node output = .error error) ↔ node ∈ context.completed) ∧
          (node ∈ context.completed ↔ node ∈ updates.map Prod.fst) := by
  intro response point last
  have ends : response = .ofLedger (finalStatus last.ledger) compiled.nodeCount last.ledger := by
    simp only [response, last, point, point_length, orchestrate_compiled compiles]
  refine ⟨by rw [ends]; exact ⟨rfl, rfl, rfl⟩, ?_, ?_, ?_, ?_, Context.record_recordEach⟩
  · intro count id node next found
    exact orchestrator.point_succ request world observer next found
  · intro count
    obtain ⟨visited, accounts⟩ := orchestrator.point_accounts compiles world observer count
    have keeps := orchestrator.point_keeps compiles world observer count
    refine ⟨keeps.onRecord accounts.nodup_executed, ?_, ?_, ?_⟩
    · exact congrArg Context.workflowId keeps.context
    · exact congrArg Context.pipelineId keeps.context
    · exact congrArg Context.initialData keeps.context
  · intro earlier later within id output
    exact orchestrator.output?_point compiles world observer within
  · intro early late id
    exact orchestrator.not_hasOutput_point compiles world observer early late

/-- The branch that is not taken is skipped at the third node, and is not on record at the end. -/
theorem orchestrate_onRecord_forked :
    forked.compile = .ok (forked.assemble forkedOrder) ∧
      let point := gateways.point forkedRequest (forked.assemble forkedOrder) () ()
      (point 3).context.completed = ["gate", "yes"] ∧ (point 3).ledger.skipped = ["no"] ∧
        (point 5).OnRecord ∧ (point 5).context.hasOutput "no" = false ∧
        ∀ output, (point 3).context.output? "gate" = some output →
          (point 5).context.output? "gate" = some output := by
  have compiles : forkedRequest.workflow.compile = .ok (forked.assemble forkedOrder) := by
    decide +kernel
  have skipped : (gateways.point forkedRequest (forked.assemble forkedOrder) () ()
      3).ledger.skipped = ["no"] := by
    decide +kernel
  obtain ⟨_, _, mirrored, kept, absent, _⟩ := gateways.orchestrate_onRecord compiles () ()
  refine ⟨compiles, by decide +kernel, skipped, (mirrored 5).1, ?_, ?_⟩
  · exact absent 3 5 "no" (Or.inl (by rw [skipped]; exact List.mem_singleton_self _))
  · exact kept 3 5 (by decide) "gate"

end Orchestrator

end Flowline
