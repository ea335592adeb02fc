import Flowline.Proofs.Run.Accounts
import Flowline.Proofs.Run.Settings
import Flowline.Proofs.Run.Trace

/-!
One request under either policy for missing dependencies. Node by node the two runs take the same
decision and invoke the same processor. A node that lacks a dependency is entered as failed by the
one and as skipped by the other; in both it stays without an output and outside of the branches that
were skipped, so that whatever depends on it lacks a dependency in turn.
-/

namespace Flowline

variable {σ τ : Type}

/-- The node was never run, for want of the output of one of its sources. -/
def NodeResult.lacksDependency (result : NodeResult) : Bool :=
  match result.outcome with
  | .error (.missingDependency _) => true
  | _ => false

theorem NodeResult.not_isSuccess_of_lacksDependency {result : NodeResult}
    (lacks : result.lacksDependency = true) : result.isSuccess = false := by
  unfold lacksDependency at lacks
  unfold isSuccess
  cases outcome : result.outcome with
  | ok output => simp [outcome] at lacks
  | error fault => rfl

theorem NodeResult.filter_append_supplied {result : NodeResult} (results : List NodeResult)
    (supplied : result.lacksDependency = false) :
    ((results ++ [result]).filter fun each => !each.lacksDependency) =
        (results.filter fun each => !each.lacksDependency) ++ [result] ∧
      (results ++ [result]).filter lacksDependency = results.filter lacksDependency := by
  simp [supplied]

/-- Some of the failures are for want of a dependency, the others have a cause of their own. -/
theorem NodeResult.failures_perm (results : List NodeResult) :
    (failures results).Perm
      (failures (results.filter fun result => !result.lacksDependency) ++
        (results.filter lacksDependency).map node) := by
  have lacking : results.filter lacksDependency =
      (results.filter fun result => !result.isSuccess).filter lacksDependency := by
    rw [List.filter_filter]
    refine List.filter_congr fun result _ => ?_
    cases lacks : result.lacksDependency with
    | false => rfl
    | true => rw [not_isSuccess_of_lacksDependency lacks]; rfl
  have others := List.filter_comm (fun result : NodeResult => !result.isSuccess)
    (fun result => !result.lacksDependency) results
  rw [failures, failures, others, lacking, ← List.map_append]
  exact ((List.perm_append_comm.trans (List.filter_append_perm _ _)).map node).symm

namespace Ledger

def branchSkips (ledger : Ledger) : List NodeId :=
  ledger.skipped.filter fun id => ledger.branchSkipped.contains id

def dependencySkips (ledger : Ledger) : List NodeId :=
  ledger.skipped.filter fun id => !ledger.branchSkipped.contains id

variable {ledger : Ledger} {node : NodeId}

theorem mem_dependencySkips :
    node ∈ ledger.dependencySkips ↔ ledger.fate? node = some .dependencySkipped := by
  rw [fate?_eq_dependencySkipped_iff, dependencySkips, List.mem_filter]
  simp

theorem not_mem_of_unsettled (unsettled : ledger.fate? node = none) :
    node ∉ ledger.branchSkipped ∧ node ∉ ledger.skipped := by
  unfold fate? at unsettled
  split_ifs at unsettled with branchSkipped skipped
  exact ⟨branchSkipped, skipped⟩

section SkipBranch

variable (absent : node ∉ ledger.skipped)

include absent

/-- A node that is new to the books is none of those skipped before. -/
theorem contains_skipBranch {id : NodeId} (member : id ∈ ledger.skipped) :
    (ledger.skipBranch node).branchSkipped.contains id = ledger.branchSkipped.contains id := by
  have other : (id == node) = false := beq_false_of_ne fun same => absent (same ▸ member)
  rw [skipBranch, List.contains_cons, other, Bool.false_or]

theorem branchSkips_skipBranch :
    (ledger.skipBranch node).branchSkips = ledger.branchSkips ++ [node] := by
  have earlier := List.filter_congr fun (id : NodeId) member =>
    contains_skipBranch absent member
  have last : [node].filter (fun id => (ledger.skipBranch node).branchSkipped.contains id) =
      [node] := by
    simp [skipBranch]
  rw [branchSkips, branchSkips, ← earlier]
  change List.filter _ (ledger.skipped ++ [node]) = _
  rw [List.filter_append, last]

theorem dependencySkips_skipBranch :
    (ledger.skipBranch node).dependencySkips = ledger.dependencySkips := by
  have earlier := List.filter_congr fun (id : NodeId) member =>
    congrArg not (contains_skipBranch absent member)
  have last : [node].filter (fun id => !(ledger.skipBranch node).branchSkipped.contains id) =
      [] := by
    simp [skipBranch]
  rw [dependencySkips, dependencySkips, ← earlier]
  change List.filter _ (ledger.skipped ++ [node]) = _
  rw [List.filter_append, last, List.append_nil]

end SkipBranch

section SkipDependent

variable (kept : node ∉ ledger.branchSkipped)

include kept

theorem branchSkips_skipDependent :
    (ledger.skipDependent node).branchSkips = ledger.branchSkips := by
  simp [branchSkips, skipDependent, kept]

theorem dependencySkips_skipDependent :
    (ledger.skipDependent node).dependencySkips = ledger.dependencySkips ++ [node] := by
  simp [dependencySkips, skipDependent, kept]

end SkipDependent

end Ledger

/-- How the policies label what becomes of a node: the first fate is that under the policy to fail,
the second that under the policy to skip. -/
inductive Fate.Relabels : Fate → Fate → Prop
  | branchSkipped : Relabels .branchSkipped .branchSkipped
  | lacking (source : NodeId) :
      Relabels (.finished (.error (.missingDependency source))) .dependencySkipped
  | finished {outcome : Except NodeFault Output}
      (provided : ∀ source, outcome ≠ .error (.missingDependency source)) :
      Relabels (.finished outcome) (.finished outcome)

namespace RunState

/-- The books of the same run under the policy to fail and under the policy to skip. -/
structure Relabelled (failing skipping : RunState σ τ) : Prop where
  context : skipping.context = failing.context
  world : skipping.world = failing.world
  branchSkipped : skipping.ledger.branchSkipped = failing.ledger.branchSkipped
  unmixed : failing.ledger.skipped = failing.ledger.branchSkipped.reverse
  branches : skipping.ledger.branchSkips = failing.ledger.skipped
  results : skipping.ledger.results =
    failing.ledger.results.filter fun result => !result.lacksDependency
  lacking : skipping.ledger.dependencySkips =
    (failing.ledger.results.filter NodeResult.lacksDependency).map NodeResult.node

variable {failing skipping : RunState σ τ} {node : PlannedNode} {fate label : Fate}

theorem Relabelled.decision_eq (relabelled : failing.Relabelled skipping)
    (compiled : CompiledWorkflow) (node : PlannedNode) :
    skipping.decision compiled node = failing.decision compiled node := by
  rw [decision, decision, relabelled.context, relabelled.branchSkipped]

section Entries

variable (relabelled : failing.Relabelled skipping) (setup other : RunSetup σ τ) (world : σ)
  (observer otherObserver : τ)

include relabelled

theorem Relabelled.skippedBranch (fresh : skipping.ledger.fate? node.node = none) :
    (setup.entered node .branchSkipped failing world observer).Relabelled
      (other.entered node .branchSkipped skipping world otherObserver) where
  context := relabelled.context
  world := rfl
  branchSkipped := congrArg (node.node :: ·) relabelled.branchSkipped
  unmixed := by
    change failing.ledger.skipped ++ [node.node] = (node.node :: _).reverse
    rw [relabelled.unmixed, List.reverse_cons]
  branches :=
    (Ledger.branchSkips_skipBranch (Ledger.not_mem_of_unsettled fresh).2).trans
      (congrArg (· ++ [node.node]) relabelled.branches)
  results := relabelled.results
  lacking :=
    (Ledger.dependencySkips_skipBranch (Ledger.not_mem_of_unsettled fresh).2).trans
      relabelled.lacking

theorem Relabelled.lacked (source : NodeId) (fresh : skipping.ledger.fate? node.node = none) :
    (setup.entered node (.finished (.error (.missingDependency source))) failing world
        observer).Relabelled
      (other.entered node .dependencySkipped skipping world otherObserver) where
  context := relabelled.context
  world := rfl
  branchSkipped := relabelled.branchSkipped
  unmixed := relabelled.unmixed
  branches :=
    (Ledger.branchSkips_skipDependent (Ledger.not_mem_of_unsettled fresh).1).trans
      relabelled.branches
  results := by
    change _ = (failing.ledger.results ++ [_]).filter _
    rw [List.filter_append, ← relabelled.results]
    exact (List.append_nil _).symm
  lacking := by
    refine (Ledger.dependencySkips_skipDependent (Ledger.not_mem_of_unsettled fresh).1).trans ?_
    change _ = ((failing.ledger.results ++ [_]).filter _).map _
    rw [List.filter_append, List.map_append, ← relabelled.lacking]
    rfl

theorem Relabelled.finished {outcome : Except NodeFault Output}
    (provided : ∀ source, outcome ≠ .error (.missingDependency source)) :
    (setup.entered node (.finished outcome) failing world observer).Relabelled
      (other.entered node (.finished outcome) skipping world otherObserver) := by
  have supplied : (NodeResult.within failing.context node.node node.type
      outcome).lacksDependency = false := by
    unfold NodeResult.lacksDependency
    split
    · rename_i source lacks
      exact absurd lacks (provided source)
    · rfl
  obtain ⟨others, lacking⟩ :=
    NodeResult.filter_append_supplied failing.ledger.results supplied
  have apart (ledger : Ledger) (context : Context) :
      (ledger.enter context node (.finished outcome)).skipped = ledger.skipped ∧
        (ledger.enter context node (.finished outcome)).branchSkipped = ledger.branchSkipped ∧
        (ledger.enter context node (.finished outcome)).results =
          ledger.results ++ [.within context node.node node.type outcome] := by
    cases outcome <;> exact ⟨rfl, rfl, rfl⟩
  obtain ⟨skipped, branchSkipped, results⟩ := apart failing.ledger failing.context
  obtain ⟨otherSkipped, otherBranchSkipped, otherResults⟩ := apart skipping.ledger failing.context
  refine ⟨?_, rfl, ?_, ?_, ?_, ?_, ?_⟩ <;>
    simp only [RunSetup.entered, Ledger.branchSkips, Ledger.dependencySkips, relabelled.context,
      skipped, branchSkipped, results, otherSkipped, otherBranchSkipped, otherResults, others,
      lacking]
  · exact relabelled.branchSkipped
  · exact relabelled.unmixed
  · exact relabelled.branches
  · rw [relabelled.results]
  · exact relabelled.lacking

theorem Relabelled.entered (relabels : fate.Relabels label)
    (fresh : skipping.ledger.fate? node.node = none) :
    (setup.entered node fate failing world observer).Relabelled
      (other.entered node label skipping world otherObserver) := by
  cases relabels with
  | branchSkipped => exact relabelled.skippedBranch setup other world observer otherObserver fresh
  | lacking source => exact relabelled.lacked setup other world observer otherObserver source fresh
  | finished provided =>
      exact relabelled.finished setup other world observer otherObserver provided

end Entries

end RunState

namespace RunSetup

variable {setup : RunSetup σ τ} {settings : RunSettings} {compiled : CompiledWorkflow}
  {failing skipping : RunState σ τ} {rest : List NodeId} {node : PlannedNode}

theorem settle_relabels (fails : setup.settings.missingDependency = .fail)
    (skips : settings.missingDependency = .skip) (node : PlannedNode) (world : σ)
    (decision : Decision) :
    (setup.settle node world decision).1.Relabels
        ((setup.withSettings settings).settle node world decision).1 ∧
      ((setup.withSettings settings).settle node world decision).2 =
        (setup.settle node world decision).2 := by
  cases decision with
  | skip triggers => exact ⟨.branchSkipped, rfl⟩
  | lack source =>
      simp only [settle, withSettings, fails, skips]
      exact ⟨.lacking source, trivial⟩
  | run inputs =>
      exact ⟨.finished (setup.registry.attempt_ne_missingDependency node inputs world), rfl⟩

section Policies

variable (tolerant : setup.settings.continueOnError = true)
  (alsoTolerant : settings.continueOnError = true)
  (fails : setup.settings.missingDependency = .fail)
  (skips : settings.missingDependency = .skip)

include fails skips

theorem visit_relabelled (compiled : CompiledWorkflow) (relabelled : failing.Relabelled skipping)
    (fresh : failing.context.output? node.node = none)
    (unsettled : skipping.ledger.fate? node.node = none) :
    (setup.visit (compiled.plan.inputsOf node.node) node failing).Relabelled
      ((setup.withSettings settings).visit (compiled.plan.inputsOf node.node) node
        skipping) := by
  have otherFresh : skipping.context.output? node.node = none := by
    rw [relabelled.context]
    exact fresh
  obtain ⟨observer, entry⟩ :=
    setup.visit_eq (compiled.plan.inputsOf node.node) node failing fresh
  obtain ⟨otherObserver, otherEntry⟩ :=
    (setup.withSettings settings).visit_eq (compiled.plan.inputsOf node.node) node skipping
      otherFresh
  have decided := relabelled.decision_eq compiled node
  obtain ⟨relabels, sameWorld⟩ := settle_relabels fails skips node failing.world
    (failing.decision compiled node)
  have settled : (setup.withSettings settings).settled (compiled.plan.inputsOf node.node) node
      skipping = (setup.withSettings settings).settle node failing.world
        (failing.decision compiled node) := by
    rw [← decided, ← relabelled.world]
    rfl
  rw [entry, otherEntry, settled, sameWorld]
  exact relabelled.entered _ _ _ _ _ relabels unsettled

include tolerant alsoTolerant

/-- The two policies go through the same visits, with the same calls. -/
theorem walk_relabelled (pending : failing.Pending compiled rest)
    (otherPending : skipping.Pending compiled rest) (running : failing.ledger.isStopped = false)
    (otherRunning : skipping.ledger.isStopped = false) (relabelled : failing.Relabelled skipping) :
    (setup.walk compiled rest failing).Relabelled
        ((setup.withSettings settings).walk compiled rest skipping) ∧
      (setup.withSettings settings).answeredCalls compiled rest skipping =
        setup.answeredCalls compiled rest failing := by
  induction rest generalizing failing skipping with
  | nil => exact ⟨relabelled, rfl⟩
  | cons id rest ih =>
      obtain ⟨node, found, rfl, visited⟩ := setup.visited_of_pending pending
      obtain ⟨other, otherFound, _, otherVisited⟩ :=
        (setup.withSettings settings).visited_of_pending otherPending
      cases found.symm.trans otherFound
      have goes :=
        isStopped_visit_of_tolerant setup tolerant (compiled.plan.inputsOf node.node) visited.fresh
      have otherGoes := isStopped_visit_of_tolerant (setup.withSettings settings) alsoTolerant
        (compiled.plan.inputsOf node.node) otherVisited.fresh
      rw [running] at goes
      rw [otherRunning] at otherGoes
      have next := visit_relabelled fails skips compiled relabelled visited.fresh
        (otherPending.fresh node.node List.mem_cons_self)
      obtain ⟨relabelled', sameCalls⟩ :=
        ih visited.pending otherVisited.pending goes otherGoes next
      have invoked : (setup.withSettings settings).answered? node
          (skipping.decision compiled node) skipping.world =
            setup.answered? node (failing.decision compiled node) failing.world := by
        rw [relabelled.decision_eq, relabelled.world]
        rfl
      rw [answeredCalls] at sameCalls ⊢
      rw [walk_cons _ _ _ found, walk_cons _ _ _ found, trace_cons _ _ _ _ found, answeredCalls,
        trace_cons _ _ _ _ found, goes, otherGoes]
      refine ⟨relabelled', ?_⟩
      rw [invoked]
      exact congrArg _ sameCalls

end Policies

end RunSetup

namespace Orchestrator

variable {orchestrator : Orchestrator σ τ} {request : RunRequest} {compiled : CompiledWorkflow}

section Policies

variable {failing skipping : RunOptions} (compiles : request.workflow.compile = .ok compiled)
  (fails : failing.resolve orchestrator.defaults =
    { continueOnError := true, missingDependency := .fail })
  (skips : skipping.resolve orchestrator.defaults =
    { continueOnError := true, missingDependency := .skip })

include compiles fails skips

theorem final_relabelled (world : σ) (observer : τ) :
    (orchestrator.final (request.withOptions failing) compiled world observer).Relabelled
        (orchestrator.final (request.withOptions skipping) compiled world observer) ∧
      orchestrator.answeredCalls (request.withOptions skipping) compiled world observer =
        orchestrator.answeredCalls (request.withOptions failing) compiled world observer :=
  RunSetup.walk_relabelled (congrArg RunSettings.continueOnError fails)
    (congrArg RunSettings.continueOnError skips) (congrArg RunSettings.missingDependency fails)
    (congrArg RunSettings.missingDependency skips) (pending_start compiles world observer)
    (pending_start compiles world observer) rfl rfl ⟨rfl, rfl, rfl, rfl, rfl, rfl, rfl⟩

theorem skipped_not_contains_final (world : σ) (observer : τ) :
    ((orchestrator.final (request.withOptions skipping) compiled world
        observer).ledger.skipped.filter fun id =>
      !(orchestrator.final (request.withOptions failing) compiled world
        observer).ledger.skipped.contains id) =
      (orchestrator.final (request.withOptions skipping) compiled world
        observer).ledger.dependencySkips := by
  obtain ⟨relabelled, _⟩ := final_relabelled compiles fails skips world observer
  refine List.filter_congr fun id _ => ?_
  rw [relabelled.unmixed, relabelled.branchSkipped, List.contains_reverse]

end Policies

/-- With failures tolerated, the policy for missing dependencies decides how the nodes that lack one
are reported, and nothing else: as failures, or else among the skipped nodes. -/
theorem orchestrate_relabelled (orchestrator : Orchestrator σ τ) (request : RunRequest)
    (failing skipping : RunOptions) (compiles : request.workflow.compile = .ok compiled)
    (fails : failing.resolve orchestrator.defaults =
      { continueOnError := true, missingDependency := .fail })
    (skips : skipping.resolve orchestrator.defaults =
      { continueOnError := true, missingDependency := .skip }) (world : σ) (observer : τ) :
    let failed := (orchestrator.orchestrate (request.withOptions failing) world observer).1
    let skipped := (orchestrator.orchestrate (request.withOptions skipping) world observer).1
    let failedBooks :=
      (orchestrator.final (request.withOptions failing) compiled world observer).ledger
    let skippedBooks :=
      (orchestrator.final (request.withOptions skipping) compiled world observer).ledger
    let deprived := skipped.skipped.filter fun id => !failed.skipped.contains id
    orchestrator.answeredCalls (request.withOptions skipping) compiled world observer =
        orchestrator.answeredCalls (request.withOptions failing) compiled world observer ∧
      (orchestrator.recorded.orchestrate (request.withOptions skipping) (world, [])
          observer).2.1 =
        (orchestrator.recorded.orchestrate (request.withOptions failing) (world, [])
          observer).2.1 ∧
      skippedBooks.branchSkipped = failedBooks.branchSkipped ∧
      (skipped.skipped.filter fun id => skippedBooks.branchSkipped.contains id) =
        failed.skipped ∧
      skipped.results.filter NodeResult.isSuccess = failed.results.filter NodeResult.isSuccess ∧
      skipped.results = (failed.results.filter fun result => !result.lacksDependency) ∧
      deprived = (failed.results.filter NodeResult.lacksDependency).map NodeResult.node ∧
      (∀ id, id ∈ deprived ↔ skippedBooks.fate? id = some .dependencySkipped) ∧
      failed.failed.Perm (skipped.failed ++ deprived) ∧
      skipped.failed.Disjoint deprived := by
  intro failed skipped failedBooks skippedBooks deprived
  have compilesFailing := RunRequest.compile_withOptions compiles failing
  have compilesSkipping := RunRequest.compile_withOptions compiles skipping
  have failedRun : failed = .ofLedger (finalStatus failedBooks) compiled.nodeCount failedBooks :=
    response_withOptions orchestrator compiles failing world observer
  have skippedRun :
      skipped = .ofLedger (finalStatus skippedBooks) compiled.nodeCount skippedBooks :=
    response_withOptions orchestrator compiles skipping world observer
  obtain ⟨relabelled, sameCalls⟩ := final_relabelled compiles fails skips world observer
  have failures : failed.failed = NodeResult.failures failed.results := by
    rw [failedRun]
    exact failures_final compilesFailing
  have otherFailures : skipped.failed = NodeResult.failures skipped.results := by
    rw [skippedRun]
    exact failures_final compilesSkipping
  have results : skipped.results =
      failed.results.filter fun result => !result.lacksDependency := by
    rw [skippedRun, failedRun]
    exact relabelled.results
  have deprivedNodes : deprived = skippedBooks.dependencySkips := by
    simp only [deprived, skippedRun, failedRun]
    exact skipped_not_contains_final compiles fails skips world observer
  have lacking : deprived =
      (failed.results.filter NodeResult.lacksDependency).map NodeResult.node := by
    rw [deprivedNodes, failedRun]
    exact relabelled.lacking
  refine ⟨sameCalls, ?_, relabelled.branchSkipped, ?_, ?_, results, lacking, ?_, ?_, ?_⟩
  · rw [orchestrate_recorded_answeredCalls orchestrator compilesSkipping,
      orchestrate_recorded_answeredCalls orchestrator compilesFailing, sameCalls,
      orchestrate_compiled compilesSkipping, orchestrate_compiled compilesFailing]
    simp only [relabelled.world]
  · rw [skippedRun, failedRun]
    exact relabelled.branches
  · rw [results, List.filter_filter]
    refine List.filter_congr fun result _ => ?_
    cases lacks : result.lacksDependency with
    | false => rw [Bool.not_false, Bool.and_true]
    | true => rw [NodeResult.not_isSuccess_of_lacksDependency lacks, Bool.false_and]
  · intro id
    rw [deprivedNodes]
    exact Ledger.mem_dependencySkips
  · rw [failures, otherFailures, results, lacking]
    exact NodeResult.failures_perm failed.results
  · have accounts := accounts_final compilesSkipping
      (isStopped_final orchestrator world observer compilesSkipping
        (congrArg RunSettings.continueOnError skips))
    have unique := (accounts.perm (Workflow.nodup_order compiles)).nodup_iff.mpr
      (Workflow.nodup_order compiles)
    intro id failedToo isDeprived
    rw [otherFailures, skippedRun] at failedToo
    rw [deprivedNodes] at isDeprived
    exact List.disjoint_of_nodup_append unique (NodeResult.mem_failures failedToo)
      (List.mem_filter.mp isDeprived).1

/-- The node behind the one that fails is reported as failed, or else as skipped. -/
theorem orchestrate_relabelled_forked :
    forked.compile = .ok (forked.assemble forkedOrder) ∧
      let failed := (gateways.orchestrate
        (forkedRequest.withOptions { missingDependency := some .fail }) () ()).1
      let skipped := (gateways.orchestrate
        (forkedRequest.withOptions { missingDependency := some .skip }) () ()).1
      failed.failed = ["lost", "late"] ∧ skipped.failed = ["lost"] ∧
        skipped.skipped = ["no", "late"] ∧
        skipped.results = failed.results.filter fun result => !result.lacksDependency := by
  have compiles : forkedRequest.workflow.compile = .ok (forked.assemble forkedOrder) := by
    decide +kernel
  obtain ⟨_, _, _, _, _, results, _⟩ := orchestrate_relabelled gateways forkedRequest
    { missingDependency := some .fail } { missingDependency := some .skip } compiles rfl rfl () ()
  exact ⟨compiles, by decide +kernel, by decide +kernel, by decide +kernel, results⟩

end Orchestrator

end Flowline
