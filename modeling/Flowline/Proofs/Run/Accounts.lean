import Flowline.Proofs.Run.Meaning
import Flowline.Proofs.Run.Trace

/-!
The accounts of a run. Every visit enters its node once, as a result or as skipped, so the two lists
share out the nodes that were visited, which are the front of the order up to the node that stopped
the run, or else all of it.
-/

namespace Flowline

namespace NodeResult

def failures (results : List NodeResult) : List NodeId :=
  (results.filter fun result => !result.isSuccess).map node

theorem failures_append (results others : List NodeResult) :
    failures (results ++ others) = failures results ++ failures others := by
  rw [failures, List.filter_append, List.map_append]
  rfl

end NodeResult

namespace Fate

theorem failures_results (fate : Fate) (context : Context) (node : PlannedNode) :
    NodeResult.failures (fate.results context node) = fate.failures node := by
  cases fate with
  | branchSkipped => rfl
  | dependencySkipped => rfl
  | finished outcome => cases outcome <;> rfl

/-- A fate posts its node either to the results or to the skipped nodes. -/
theorem posts_once (fate : Fate) (context : Context) (node : PlannedNode) :
    (fate.results context node).map NodeResult.node = [node.node] ∧ fate.skips node = [] ∨
      fate.results context node = [] ∧ fate.skips node = [node.node] := by
  cases fate with
  | branchSkipped => exact Or.inr ⟨rfl, rfl⟩
  | dependencySkipped => exact Or.inr ⟨rfl, rfl⟩
  | finished outcome => exact Or.inl ⟨rfl, rfl⟩

end Fate

namespace Ledger

/-- Every node of `visited`, and no other, is entered once, as a result or as skipped, and both
lists go by the order of `visited`. -/
structure Accounts (ledger : Ledger) (visited : List NodeId) : Prop where
  once : ∀ id, (ledger.results.map NodeResult.node).count id + ledger.skipped.count id =
    if id ∈ visited then 1 else 0
  executed : (ledger.results.map NodeResult.node).Sublist visited
  skipped : ledger.skipped.Sublist visited

variable {ledger : Ledger} {visited : List NodeId} {node : PlannedNode}

theorem Accounts.start : Accounts {} [] where
  once _ := rfl
  executed := .slnil
  skipped := .slnil

theorem Accounts.enter (accounts : ledger.Accounts visited) (context : Context) (fate : Fate)
    (fresh : node.node ∉ visited) :
    (ledger.enter context node fate).Accounts (visited ++ [node.node]) := by
  have counts (id : NodeId) : (if id ∈ visited ++ [node.node] then 1 else 0) =
      (if id ∈ visited then 1 else 0) + [node.node].count id := by
    by_cases same : id = node.node
    · subst same
      simp [fresh]
    · simp [same, Ne.symm same]
  have results := ledger.results_enter context node fate
  have skipped := ledger.skipped_enter context node fate
  rcases fate.posts_once context node with ⟨ran, kept⟩ | ⟨kept, left⟩
  · rw [kept, List.append_nil] at skipped
    have executed : (ledger.enter context node fate).results.map NodeResult.node =
        ledger.results.map NodeResult.node ++ [node.node] := by
      rw [results, List.map_append, ran]
    refine ⟨fun id => ?_, ?_, ?_⟩
    · rw [executed, skipped, List.count_append, counts, ← accounts.once id]
      omega
    · rw [executed]
      exact accounts.executed.append (List.Sublist.refl _)
    · rw [skipped]
      exact accounts.skipped.trans (List.sublist_append_left _ _)
  · rw [left] at skipped
    rw [kept, List.append_nil] at results
    refine ⟨fun id => ?_, ?_, ?_⟩
    · rw [results, skipped, List.count_append, counts, ← accounts.once id]
      omega
    · rw [results]
      exact accounts.executed.trans (List.sublist_append_left _ _)
    · rw [skipped]
      exact accounts.skipped.append (List.Sublist.refl _)

end Ledger

theorem NodeResult.mem_failures {results : List NodeResult} {id : NodeId}
    (failed : id ∈ failures results) : id ∈ results.map node := by
  obtain ⟨result, member, rfl⟩ := List.mem_map.mp failed
  exact List.mem_map_of_mem (List.mem_filter.mp member).1

theorem Ledger.Accounts.perm {ledger : Ledger} {visited : List NodeId}
    (accounts : ledger.Accounts visited) (unique : visited.Nodup) :
    (ledger.results.map NodeResult.node ++ ledger.skipped).Perm visited := by
  rw [List.perm_iff_count]
  intro id
  rw [List.count_append, accounts.once id]
  split
  · rename_i member
    rw [List.count_eq_one_of_mem unique member]
  · rename_i absent
    rw [List.count_eq_zero_of_not_mem absent]

/-- Whatever was skipped with its branch is among the skipped nodes. -/
def Ledger.Gated (ledger : Ledger) : Prop := ledger.branchSkipped ⊆ ledger.skipped

theorem Ledger.Gated.enter {ledger : Ledger} (gated : ledger.Gated) (context : Context)
    (node : PlannedNode) (fate : Fate) : (ledger.enter context node fate).Gated := by
  cases fate with
  | branchSkipped =>
      intro id member
      refine List.mem_append.mpr ?_
      rcases List.mem_cons.mp member with rfl | earlier
      · exact Or.inr (List.mem_singleton_self _)
      · exact Or.inl (gated earlier)
  | dependencySkipped => exact fun id member => List.mem_append_left _ (gated member)
  | finished outcome => cases outcome <;> exact gated

theorem Ledger.Gated.mem_skipped_iff {ledger : Ledger} {id : NodeId} {fate : Fate}
    (gated : ledger.Gated) (settled : ledger.fate? id = some fate) :
    id ∈ ledger.skipped ↔ fate.isSkip = true := by
  cases fate with
  | branchSkipped => exact iff_of_true (gated (fate?_eq_branchSkipped_iff.mp settled)) rfl
  | dependencySkipped => exact iff_of_true (mem_skipped_of_fate? settled) rfl
  | finished outcome => exact iff_of_false (exists_result_of_fate? settled).1 Bool.false_ne_true

namespace Ledger.Accounts

variable {ledger : Ledger} {visited : List NodeId} {id : NodeId}
  (accounts : ledger.Accounts visited)

include accounts

theorem nodup_executed : (ledger.results.map NodeResult.node).Nodup := by
  refine List.nodup_iff_count_le_one.mpr fun id => ?_
  have once := accounts.once id
  split at once <;> omega

theorem not_skipped {result : NodeResult} (member : result ∈ ledger.results) :
    result.node ∉ ledger.skipped := by
  intro skipped
  have executed : 0 < (ledger.results.map NodeResult.node).count result.node :=
    List.count_pos_iff.mpr (List.mem_map_of_mem member)
  have counted : 0 < ledger.skipped.count result.node := List.count_pos_iff.mpr skipped
  have once := accounts.once result.node
  split at once <;> omega

theorem fate?_eq_finished_iff (gated : ledger.Gated) {outcome : Except NodeFault Output} :
    ledger.fate? id = some (.finished outcome) ↔
      ∃ result ∈ ledger.results, result.node = id ∧ result.outcome = outcome := by
  refine ⟨fun settled => (exists_result_of_fate? settled).2, ?_⟩
  rintro ⟨result, member, rfl, rfl⟩
  have unskipped := accounts.not_skipped member
  rw [fate?, if_neg fun skipped => unskipped (gated skipped), if_neg unskipped]
  cases found : ledger.results.find? fun other => other.node == result.node with
  | none => exact absurd (List.find?_eq_none.mp found result member) (by simp)
  | some other =>
      have sameNode := List.find?_some found
      have same : other = result :=
        List.inj_on_of_nodup_map accounts.nodup_executed (List.mem_of_find?_eq_some found) member
          (eq_of_beq sameNode)
      rw [same, Option.map_some]

theorem exists_result_iff (gated : ledger.Gated) {fate : Fate}
    (settled : ledger.fate? id = some fate) (holds : Except NodeFault Output → Prop) :
    (∃ result ∈ ledger.results, result.node = id ∧ holds result.outcome) ↔
      ∃ outcome, fate = .finished outcome ∧ holds outcome := by
  constructor
  · rintro ⟨result, member, same, held⟩
    have finished := (accounts.fate?_eq_finished_iff gated).mpr ⟨result, member, same, rfl⟩
    exact ⟨_, Option.some.inj (settled.symm.trans finished), held⟩
  · rintro ⟨outcome, rfl, held⟩
    obtain ⟨result, member, same, rfl⟩ := (accounts.fate?_eq_finished_iff gated).mp settled
    exact ⟨result, member, same, held⟩

theorem mem_failed_iff (gated : ledger.Gated)
    (failures : ledger.failed = NodeResult.failures ledger.results) :
    id ∈ ledger.failed ↔ ∃ fault, ledger.fate? id = some (.finished (.error fault)) := by
  have listed : id ∈ ledger.failed ↔
      ∃ result ∈ ledger.results, result.node = id ∧ result.isSuccess = false := by
    simp [failures, NodeResult.failures, and_comm, and_left_comm]
  rw [listed]
  constructor
  · rintro ⟨result, member, same, failed⟩
    cases outcome : result.outcome with
    | ok output =>
        rw [NodeResult.isSuccess, outcome] at failed
        contradiction
    | error fault =>
        exact ⟨fault, (accounts.fate?_eq_finished_iff gated).mpr ⟨result, member, same, outcome⟩⟩
  · rintro ⟨fault, settled⟩
    obtain ⟨result, member, same, outcome⟩ := (accounts.fate?_eq_finished_iff gated).mp settled
    refine ⟨result, member, same, ?_⟩
    rw [NodeResult.isSuccess, outcome]
    rfl

theorem mem_visited_iff :
    id ∈ visited ↔ id ∈ ledger.results.map NodeResult.node ∨ id ∈ ledger.skipped := by
  have once := accounts.once id
  rw [← List.count_pos_iff (a := id) (l := ledger.skipped),
    ← List.count_pos_iff (a := id) (l := ledger.results.map NodeResult.node)]
  split at once
  · rename_i member
    exact iff_of_true member (by omega)
  · rename_i absent
    exact iff_of_false absent (by omega)

end Ledger.Accounts

variable {σ τ : Type} {setup : RunSetup σ τ} {compiled : CompiledWorkflow} {state : RunState σ τ}
  {rest seen : List NodeId} {node : PlannedNode}

namespace RunState

/-- `next` has more in its books than `state`, and all of it behind what was there. -/
structure Extends (state next : RunState σ τ) : Prop where
  results : state.ledger.results <+: next.ledger.results
  skipped : state.ledger.skipped <+: next.ledger.skipped
  failed : state.ledger.failed <+: next.ledger.failed

theorem Extends.refl (state : RunState σ τ) : state.Extends state :=
  ⟨List.prefix_rfl, List.prefix_rfl, List.prefix_rfl⟩

theorem Extends.entered {next : RunState σ τ} (extended : state.Extends next)
    (setup : RunSetup σ τ) (node : PlannedNode) (fate : Fate) (world : σ) (observer : τ) :
    state.Extends (setup.entered node fate next world observer) := by
  refine ⟨extended.results.trans ?_, extended.skipped.trans ?_, extended.failed.trans ?_⟩
  · exact ⟨_, (Ledger.results_enter next.ledger next.context node fate).symm⟩
  · exact ⟨_, (Ledger.skipped_enter next.ledger next.context node fate).symm⟩
  · exact ⟨_, (Ledger.failed_enter next.ledger next.context node fate).symm⟩

end RunState

namespace RunSetup

theorem accounts_visit (setup : RunSetup σ τ) (accounts : state.ledger.Accounts seen)
    (mappings : List InputMapping) (fresh : state.context.output? node.node = none)
    (new : node.node ∉ seen) :
    (setup.visit mappings node state).ledger.Accounts (seen ++ [node.node]) := by
  obtain ⟨observer, entry⟩ := setup.visit_eq mappings node state fresh
  have entered := accounts.enter state.context (setup.settled mappings node state).1 new
  rw [entry]
  exact ⟨entered.once, entered.executed, entered.skipped⟩

/-- The nodes that a walk gets to. -/
def visited (setup : RunSetup σ τ) (compiled : CompiledWorkflow) :
    List NodeId → RunState σ τ → List NodeId :=
  setup.trace compiled fun node _ => [node.node]

theorem visited_cons (setup : RunSetup σ τ) (state : RunState σ τ) (rest : List NodeId)
    (found : compiled.node? node.node = some node) :
    setup.visited compiled (node.node :: rest) state =
      node.node ::
        if (setup.visit (compiled.plan.inputsOf node.node) node state).ledger.isStopped then []
        else setup.visited compiled rest
          (setup.visit (compiled.plan.inputsOf node.node) node state) :=
  setup.trace_cons _ state rest found

theorem visited_isPrefix (setup : RunSetup σ τ) (pending : state.Pending compiled rest) :
    setup.visited compiled rest state <+: rest := by
  induction rest generalizing state with
  | nil => exact List.nil_prefix
  | cons id rest ih =>
      obtain ⟨node, found, rfl, entered⟩ := setup.visited_of_pending pending
      rw [visited_cons _ _ _ found, List.prefix_cons_inj]
      split
      · exact List.nil_prefix
      · exact ih entered.pending

theorem visited_of_unstopped (pending : state.Pending compiled rest)
    (unstopped : (setup.walk compiled rest state).ledger.isStopped = false) :
    setup.visited compiled rest state = rest := by
  induction rest generalizing state with
  | nil => rfl
  | cons id rest ih =>
      obtain ⟨node, found, rfl, entered⟩ := setup.visited_of_pending pending
      obtain ⟨running, goes⟩ := walk_cons_of_unstopped found unstopped
      rw [goes] at unstopped
      rw [visited_cons _ _ _ found, running, if_neg Bool.false_ne_true,
        ih entered.pending unstopped]

/-- A walk accounts for the nodes that it gets to. -/
theorem accounts_visited (setup : RunSetup σ τ) (pending : state.Pending compiled rest)
    (accounts : state.ledger.Accounts seen) (unique : (seen ++ rest).Nodup) :
    (setup.walk compiled rest state).ledger.Accounts
      (seen ++ setup.visited compiled rest state) := by
  induction rest generalizing state seen with
  | nil =>
      rw [visited, trace, List.append_nil]
      exact accounts
  | cons id rest ih =>
      obtain ⟨node, found, rfl, entered⟩ := setup.visited_of_pending pending
      have new : node.node ∉ seen := fun member =>
        List.disjoint_of_nodup_append unique member List.mem_cons_self
      have next := accounts_visit setup accounts (compiled.plan.inputsOf node.node)
        entered.fresh new
      rw [setup.walk_cons state rest found, visited_cons _ _ _ found]
      split
      · exact next
      · rw [List.append_cons] at unique ⊢
        exact ih entered.pending next unique

theorem accounts_walk (pending : state.Pending compiled rest)
    (unstopped : (setup.walk compiled rest state).ledger.isStopped = false)
    (accounts : state.ledger.Accounts seen) (unique : (seen ++ rest).Nodup) :
    (setup.walk compiled rest state).ledger.Accounts (seen ++ rest) := by
  have reached := accounts_visited setup pending accounts unique
  rwa [visited_of_unstopped pending unstopped] at reached

theorem gated_walk (pending : state.Pending compiled rest) (gated : state.ledger.Gated) :
    (setup.walk compiled rest state).ledger.Gated :=
  setup.walk_keeps (fun next => next.ledger.Gated)
    (fun node fate next _ _ initially => initially.enter next.context node fate) pending gated

theorem failures_walk (pending : state.Pending compiled rest)
    (initially : state.ledger.failed = NodeResult.failures state.ledger.results) :
    (setup.walk compiled rest state).ledger.failed =
      NodeResult.failures (setup.walk compiled rest state).ledger.results := by
  refine setup.walk_keeps
    (fun next => next.ledger.failed = NodeResult.failures next.ledger.results) ?_ pending initially
  intro node fate next world observer same
  simp only [entered, Ledger.results_enter, Ledger.failed_enter, NodeResult.failures_append,
    Fate.failures_results, same]

theorem walk_extends (setup : RunSetup σ τ) (pending : state.Pending compiled rest) :
    state.Extends (setup.walk compiled rest state) :=
  setup.walk_keeps state.Extends
    (fun node fate _ world observer extended => extended.entered setup node fate world observer)
    pending (RunState.Extends.refl state)

theorem failed_eq_nil_of_unstopped (strict : setup.settings.continueOnError = false)
    (pending : state.Pending compiled rest)
    (unstopped : (setup.walk compiled rest state).ledger.isStopped = false)
    (initially : state.ledger.failed = []) :
    (setup.walk compiled rest state).ledger.failed = [] := by
  have harmless := not_failed_of_unstopped strict pending unstopped
  rw [failed_walk pending unstopped, initially, List.nil_append, List.flatMap_eq_nil_iff]
  intro id member
  unfold RunState.posting
  cases compiled.node? id with
  | none => rfl
  | some node =>
      cases settled : (setup.walk compiled rest state).ledger.fate? id with
      | none => rfl
      | some fate => simp [Fate.failures, harmless id member fate settled]

/-- A stopped walk accounts for the nodes up to the one that stopped it, which is the last to get a
result and the only one to fail. -/
theorem accounts_of_stopped (pending : state.Pending compiled rest)
    (running : state.ledger.isStopped = false)
    (stopped : (setup.walk compiled rest state).ledger.isStopped = true)
    (accounts : state.ledger.Accounts []) (unfailed : state.ledger.failed = []) :
    ∃ before last after, rest = before ++ last :: after ∧
      (setup.walk compiled rest state).ledger.Accounts (before ++ [last]) ∧
      ((setup.walk compiled rest state).ledger.results.map NodeResult.node).getLast? =
        some last ∧
      (setup.walk compiled rest state).ledger.failed = [last] := by
  obtain ⟨before, node, after, rfl, found, unstopped, ends⟩ :=
    walk_stopped pending running stopped
  have middle : (setup.walk compiled before state).Pending compiled (node.node :: after) :=
    pending.back setup
  have fresh : (setup.walk compiled before state).context.output? node.node = none := by
    rw [middle.agreed, middle.fresh node.node List.mem_cons_self]
    rfl
  have new : node.node ∉ before := fun early =>
    List.disjoint_of_nodup_append pending.unique early List.mem_cons_self
  have reached := accounts_walk pending.front unstopped accounts pending.front.unique
  have entered := accounts_visit setup reached (compiled.plan.inputsOf node.node) fresh new
  obtain ⟨observer, entry⟩ := setup.visit_eq (compiled.plan.inputsOf node.node) node
    (setup.walk compiled before state) fresh
  rw [ends] at stopped ⊢
  have stops : (setup.stop? node.node (setup.settled (compiled.plan.inputsOf node.node) node
      (setup.walk compiled before state)).1).isSome = true := by
    rw [isStopped_visit setup _ fresh, unstopped, Bool.or_false] at stopped
    exact stopped
  obtain ⟨strict, failing⟩ := isSome_stop?_iff.mp stops
  obtain ⟨fault, fails⟩ := Fate.isFailure_iff.mp failing
  have spared := failed_eq_nil_of_unstopped strict pending.front unstopped unfailed
  refine ⟨before, node.node, after, rfl, entered, ?_, ?_⟩
  · rw [entry]
    simp [RunSetup.entered, fails, Ledger.results_enter, Fate.results, Fate.outcome?,
      NodeResult.within]
  · rw [entry]
    simp [RunSetup.entered, fails, Ledger.failed_enter, Fate.failures, Fate.isFailure, spared]

end RunSetup

theorem RunResponse.nodup_summaryKeys (response : RunResponse) :
    (["orchestrator_type", "total_nodes", "nodes_executed", "nodes_skipped", "skipped_node_ids",
      "nodes_failed", "failed_node_ids"] ++
        (Json.optionalField "error" (response.error?.map .string)).map Prod.fst).Nodup := by
  have distinct : ∀ last ∈ [[], ["error"]],
      (["orchestrator_type", "total_nodes", "nodes_executed", "nodes_skipped",
        "skipped_node_ids", "nodes_failed", "failed_node_ids"] ++ last).Nodup := by
    decide
  refine distinct _ ?_
  cases response.error? <;> simp [Json.optionalField]

/-- The counts of the summary are the lengths of the lists. -/
theorem RunResponse.summary_counts (response : RunResponse) :
    response.summaryToJson.field? "total_nodes" = some (Json.ofNat response.totalNodes) ∧
      response.summaryToJson.field? "nodes_executed" =
        some (Json.ofNat response.results.length) ∧
      response.summaryToJson.field? "nodes_skipped" =
        some (Json.ofNat response.skipped.length) ∧
      response.summaryToJson.field? "nodes_failed" =
        some (Json.ofNat response.failed.length) := by
  refine ⟨?_, ?_, ?_, ?_⟩ <;>
    refine Entries.get?_ofList_of_nodup response.nodup_summaryKeys ?_
  · exact .tail _ (.head _)
  · exact .tail _ (.tail _ (.head _))
  · exact .tail _ (.tail _ (.tail _ (.head _)))
  · exact .tail _ (.tail _ (.tail _ (.tail _ (.tail _ (.head _)))))

theorem RunResponse.summary_error {response : RunResponse} {error : String}
    (told : response.error? = some error) :
    response.summaryToJson.field? "error" = some (.string error) := by
  refine Entries.get?_ofList_of_nodup response.nodup_summaryKeys ?_
  rw [told]
  exact List.mem_append_right _ (.head _)

namespace Orchestrator

variable {orchestrator : Orchestrator σ τ} {request : RunRequest} {world : σ} {observer : τ}

theorem failures_final (compiles : request.workflow.compile = .ok compiled) :
    (orchestrator.final request compiled world observer).ledger.failed =
      NodeResult.failures (orchestrator.final request compiled world observer).ledger.results :=
  RunSetup.failures_walk (pending_start compiles _ _) rfl

def visited (orchestrator : Orchestrator σ τ) (request : RunRequest) (compiled : CompiledWorkflow)
    (world : σ) (observer : τ) : List NodeId :=
  (orchestrator.setup request.options).visited compiled compiled.plan.order
    (orchestrator.start request compiled world observer)

theorem visited_isPrefix (compiles : request.workflow.compile = .ok compiled) :
    orchestrator.visited request compiled world observer <+: compiled.plan.order :=
  RunSetup.visited_isPrefix _ (pending_start compiles world observer)

theorem visited_of_unstopped (compiles : request.workflow.compile = .ok compiled)
    (unstopped : (orchestrator.final request compiled world observer).ledger.isStopped = false) :
    orchestrator.visited request compiled world observer = compiled.plan.order :=
  RunSetup.visited_of_unstopped (pending_start compiles world observer) unstopped

theorem accounts_visited (compiles : request.workflow.compile = .ok compiled) :
    (orchestrator.final request compiled world observer).ledger.Accounts
      (orchestrator.visited request compiled world observer) := by
  have pending : (orchestrator.start request compiled world observer).Pending compiled
      compiled.plan.order := pending_start compiles world observer
  exact (orchestrator.setup request.options).accounts_visited pending Ledger.Accounts.start
    pending.unique

theorem gated_final (compiles : request.workflow.compile = .ok compiled) :
    (orchestrator.final request compiled world observer).ledger.Gated :=
  RunSetup.gated_walk (pending_start compiles world observer) (List.nil_subset _)

theorem mem_failed_iff (compiles : request.workflow.compile = .ok compiled) {id : NodeId} :
    id ∈ (orchestrator.final request compiled world observer).ledger.failed ↔
      ∃ fault, (orchestrator.final request compiled world observer).ledger.fate? id =
        some (.finished (.error fault)) :=
  (accounts_visited compiles).mem_failed_iff (gated_final compiles) (failures_final compiles)

theorem accounts_final (compiles : request.workflow.compile = .ok compiled)
    (unstopped : (orchestrator.final request compiled world observer).ledger.isStopped = false) :
    (orchestrator.final request compiled world observer).ledger.Accounts
      compiled.plan.order := by
  rw [← visited_of_unstopped compiles unstopped]
  exact accounts_visited compiles

theorem accounts_final_of_stopped (compiles : request.workflow.compile = .ok compiled)
    (stopped : (orchestrator.final request compiled world observer).ledger.isStopped = true) :
    ∃ before last after, compiled.plan.order = before ++ last :: after ∧
      (orchestrator.final request compiled world observer).ledger.Accounts (before ++ [last]) ∧
      ((orchestrator.final request compiled world observer).ledger.results.map
        NodeResult.node).getLast? = some last ∧
      (orchestrator.final request compiled world observer).ledger.failed = [last] :=
  RunSetup.accounts_of_stopped (pending_start compiles _ _) rfl stopped Ledger.Accounts.start rfl

/-- A run accounts for the first `k` nodes of the order, each once, as a result or as skipped. It is
completed only if these are all nodes; it is failed only if the last of them is the last to have a
result and the only one to have failed. -/
theorem orchestrate_accounts (orchestrator : Orchestrator σ τ)
    (compiles : request.workflow.compile = .ok compiled) (world : σ) (observer : τ) :
    let response := (orchestrator.orchestrate request world observer).1
    let order := compiled.plan.order
    ∃ k ≤ order.length,
      (∀ id, response.executed.count id + response.skipped.count id =
        if id ∈ order.take k then 1 else 0) ∧
      response.executed.Sublist order ∧
      response.skipped.Sublist order ∧
      response.failed =
        (response.results.filter fun result => !result.isSuccess).map NodeResult.node ∧
      response.summaryToJson.field? "nodes_executed" =
        some (Json.ofNat response.results.length) ∧
      response.summaryToJson.field? "nodes_skipped" =
        some (Json.ofNat response.skipped.length) ∧
      response.summaryToJson.field? "nodes_failed" =
        some (Json.ofNat response.failed.length) ∧
      (response.status = .completed →
        k = order.length ∧
          response.results.length + response.skipped.length = response.totalNodes) ∧
      (response.status = .failed →
        ∃ last, (order.take k).getLast? = some last ∧
          response.executed.getLast? = some last ∧ response.failed = [last]) := by
  intro response order
  obtain ⟨_, executedCount, skippedCount, failedCount⟩ := response.summary_counts
  have run : response = .ofLedger
      (finalStatus (orchestrator.final request compiled world observer).ledger)
      compiled.nodeCount (orchestrator.final request compiled world observer).ledger := by
    simp only [response, orchestrate_compiled compiles]
  have failures : response.failed = NodeResult.failures response.results := by
    rw [run]
    exact failures_final compiles
  cases stopped : (orchestrator.final request compiled world observer).ledger.isStopped with
  | false =>
      have accounts := accounts_final compiles stopped
      have whole : order.take order.length = order := List.take_length
      have total : response.results.length + response.skipped.length = response.totalNodes := by
        have shared := (accounts.perm (Workflow.nodup_order compiles)).length_eq
        rw [List.length_append, List.length_map] at shared
        rw [run]
        exact shared
      refine ⟨order.length, le_rfl, ?_, ?_, ?_, failures, executedCount, skippedCount,
        failedCount, fun _ => ⟨rfl, total⟩, ?_⟩
      · rw [whole, run]
        exact accounts.once
      · rw [run]
        exact accounts.executed
      · rw [run]
        exact accounts.skipped
      · rw [run]
        simp [RunResponse.ofLedger, finalStatus, stopped]
  | true =>
      obtain ⟨before, last, after, split, accounts, ranLast, failedOnly⟩ :=
        accounts_final_of_stopped compiles stopped
      have front : order.take (before ++ [last]).length = before ++ [last] := by
        simp only [order, split, List.append_cons before last after, List.take_left]
      have within : (before ++ [last]).Sublist order := by
        rw [← front]
        exact List.take_sublist _ _
      refine ⟨(before ++ [last]).length, within.length_le, ?_, ?_, ?_, failures, executedCount,
        skippedCount, failedCount, ?_, fun _ => ⟨last, ?_, ?_, ?_⟩⟩
      · rw [front, run]
        exact accounts.once
      · rw [run]
        exact accounts.executed.trans within
      · rw [run]
        exact accounts.skipped.trans within
      · rw [run]
        simp [RunResponse.ofLedger, finalStatus, stopped]
      · rw [front, List.getLast?_concat]
      · rw [run]
        exact ranLast
      · rw [run]
        exact failedOnly

/-- The node of unknown type stops the run in front of the one that needs it. -/
def strictRequest : RunRequest :=
  .ofWorkflow forked "" [("value", .bool true)] { continueOnError := some false }

theorem orchestrate_accounts_forked :
    forked.compile = .ok (forked.assemble forkedOrder) ∧
      let response := (gateways.orchestrate strictRequest () ()).1
      response.status = .failed ∧
        ∃ k ≤ forkedOrder.length,
          (∀ id, response.executed.count id + response.skipped.count id =
            if id ∈ forkedOrder.take k then 1 else 0) ∧
          ∃ last, (forkedOrder.take k).getLast? = some last ∧ response.failed = [last] := by
  have compiles : strictRequest.workflow.compile = .ok (forked.assemble forkedOrder) := by
    decide +kernel
  have failed : (gateways.orchestrate strictRequest () ()).1.status = .failed := by
    decide +kernel
  obtain ⟨k, within, once, _, _, _, _, _, _, _, ends⟩ :=
    orchestrate_accounts gateways compiles () ()
  obtain ⟨last, atEnd, _, alone⟩ := ends failed
  exact ⟨compiles, failed, k, within, once, last, atEnd, alone⟩

end Orchestrator

end Flowline
