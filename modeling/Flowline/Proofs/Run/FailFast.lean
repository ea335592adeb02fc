import Flowline.Proofs.Run.Accounts
import Flowline.Proofs.Run.Sheltered

/-!
One request with failures tolerated and with none tolerated. The strict run is the tolerant one up
to the first node that fails; it goes no further.
-/

namespace Flowline

variable {σ τ β : Type}

theorem filter_append_eq_left {wanted : β → Bool} {kept dropped : List β}
    (keeps : ∀ item ∈ kept, wanted item = true)
    (drops : ∀ item ∈ dropped, ¬ wanted item = true) : (kept ++ dropped).filter wanted = kept := by
  have left : kept.filter wanted = kept := List.filter_eq_self.mpr keeps
  have right : dropped.filter wanted = [] := List.filter_eq_nil_iff.mpr drops
  rw [List.filter_append, left, right, List.append_nil]

namespace Ledger

def hasFailed (ledger : Ledger) (id : NodeId) : Bool := (ledger.fate? id).any Fate.isFailure

variable {ledger : Ledger} {id : NodeId} {order : List NodeId}

theorem hasFailed_of_fate? {fate : Fate} (settled : ledger.fate? id = some fate) :
    ledger.hasFailed id = fate.isFailure := by
  rw [hasFailed, settled, Option.any_some]

theorem exists_first_failure (fails : ∃ id ∈ order, ledger.hasFailed id = true) :
    ∃ front first back, order = front ++ first :: back ∧ ledger.hasFailed first = true ∧
      ∀ id ∈ front, ledger.hasFailed id = false := by
  obtain ⟨first, found⟩ := Option.isSome_iff_exists.mp (List.find?_isSome.mpr fails)
  obtain ⟨failed, front, back, split, earlier⟩ := List.find?_eq_some_iff_append.mp found
  exact ⟨front, first, back, split, failed, fun id member => by simpa using earlier id member⟩

end Ledger

namespace RunSetup

variable {setup : RunSetup σ τ} {settings : RunSettings} {compiled : CompiledWorkflow}
  {state : RunState σ τ} {rest front back : List NodeId} {node : PlannedNode} {fault : NodeFault}

/-- The walk goes along `front` without a failure, and then `node` fails by a fault of its own. -/
structure FirstFailure (setup : RunSetup σ τ) (compiled : CompiledWorkflow) (state : RunState σ τ)
    (front : List NodeId) (node : PlannedNode) (fault : NodeFault) : Prop where
  found : compiled.node? node.node = some node
  sheltered : setup.Sheltered compiled front state
  running : (setup.walk compiled front state).ledger.isStopped = false
  fresh : (setup.walk compiled front state).context.output? node.node = none
  provided : ∀ source,
    (setup.walk compiled front state).decision compiled node ≠ .lack source
  fails : (setup.settled (compiled.plan.inputsOf node.node) node
    (setup.walk compiled front state)).1 = .finished (.error fault)

theorem exists_firstFailure (tolerant : setup.settings.continueOnError = true)
    (pending : state.Pending compiled rest) (grounded : state.Grounded compiled rest)
    (unharmed : state.Unharmed) (running : state.ledger.isStopped = false)
    (fails : ∃ id ∈ rest, (setup.walk compiled rest state).ledger.hasFailed id = true) :
    ∃ front node fault back, rest = front ++ node.node :: back ∧
      setup.FirstFailure compiled state front node fault := by
  obtain ⟨front, first, back, rfl, failed, passed⟩ := Ledger.exists_first_failure fails
  obtain ⟨node, found, rfl⟩ := pending.planned first (by simp)
  have reached : (setup.walk compiled front state).ledger.isStopped = false := by
    rw [isStopped_walk tolerant pending.front]
    exact running
  have next := pending.back setup
  have goes := walk_append (node.node :: back) reached
  have rested := setup.walk_continues next
  -- The nodes of the front are settled for good when the walk gets to the first failure.
  have passes (id : NodeId) (early : id ∈ front) (fate : Fate)
      (settled : (setup.walk compiled front state).ledger.fate? id = some fate) :
      fate.isFailure = false := by
    rw [← rested.kept id (List.disjoint_of_nodup_append pending.unique early), ← goes] at settled
    rw [← Ledger.hasFailed_of_fate? settled]
    exact passed id early
  have sheltered : setup.Sheltered compiled front state := by
    refine ⟨pending.front, grounded.front pending.forward, unharmed, running, ?_⟩
    intro id early fate settled fails
    rw [passes id early fate settled] at fails
    contradiction
  obtain ⟨_, foundToo, _, visited⟩ := setup.visited_of_pending next
  cases found.symm.trans foundToo
  have provided := (sheltered.unharmed_walk passes).not_lack next (grounded.back pending reached)
  have failing : (setup.settled (compiled.plan.inputsOf node.node) node
      (setup.walk compiled front state)).1.isFailure = true := by
    rw [← failed, goes, Ledger.hasFailed_of_fate? (fate?_head next visited found)]
  obtain ⟨fault, fails⟩ := Fate.isFailure_iff.mp failing
  exact ⟨front, node, fault, back, rfl, found, sheltered, reached, visited.fresh, provided, fails⟩

theorem skipped_growth (pending : state.Pending compiled rest)
    (unstopped : (setup.walk compiled rest state).ledger.isStopped = false) :
    ∃ later, (setup.walk compiled rest state).ledger.skipped = state.ledger.skipped ++ later ∧
      ∀ id ∈ later, id ∈ rest := by
  refine ⟨_, skipped_walk pending unstopped, ?_⟩
  intro id posted
  obtain ⟨placed, inside, node, fate, found, _, skips⟩ := RunState.mem_postings.mp posted
  obtain ⟨_, foundToo, rfl⟩ := pending.planned placed inside
  cases found.symm.trans foundToo
  rw [(Fate.mem_skips.mp skips).2]
  exact inside

namespace FirstFailure

variable (first : setup.FirstFailure compiled state front node fault)

include first

theorem visit_eq (settings : RunSettings) :
    ∃ world observer,
      (setup.withSettings settings).visit (compiled.plan.inputsOf node.node) node
          (setup.walk compiled front state) =
        (setup.withSettings settings).entered node (.finished (.error fault))
          (setup.walk compiled front state) world observer := by
  obtain ⟨observer, entry⟩ := (setup.withSettings settings).visit_eq
    (compiled.plan.inputsOf node.node) node (setup.walk compiled front state) first.fresh
  rw [settled_withSettings first.provided, first.fails] at entry
  exact ⟨_, observer, entry⟩

theorem tolerated (tolerant : setup.settings.continueOnError = true) (back : List NodeId) :
    (setup.visit (compiled.plan.inputsOf node.node) node
        (setup.walk compiled front state)).ledger.isStopped = false ∧
      setup.walk compiled (front ++ node.node :: back) state =
        setup.walk compiled back (setup.visit (compiled.plan.inputsOf node.node) node
          (setup.walk compiled front state)) := by
  have goes :=
    isStopped_visit_of_tolerant setup tolerant (compiled.plan.inputsOf node.node) first.fresh
  rw [first.running] at goes
  refine ⟨goes, ?_⟩
  rw [walk_append _ first.running, walk_cons _ _ _ first.found, goes, if_neg Bool.false_ne_true]

section Halted

variable (strict : settings.continueOnError = false)

include strict

theorem walk_front :
    (setup.withSettings settings).walk compiled front state = setup.walk compiled front state :=
  first.sheltered.walk_withSettings fun _ => strict

theorem running_front :
    ((setup.withSettings settings).walk compiled front state).ledger.isStopped = false := by
  rw [first.walk_front strict]
  exact first.running

theorem isStopped_visit :
    ((setup.withSettings settings).visit (compiled.plan.inputsOf node.node) node
      (setup.walk compiled front state)).ledger.isStopped = true := by
  rw [RunSetup.isStopped_visit _ _ first.fresh, settled_withSettings first.provided, first.fails,
    isSome_stop?_iff.mpr ⟨strict, rfl⟩, Bool.true_or]

theorem halted :
    (setup.withSettings settings).walk compiled (front ++ node.node :: back) state =
      (setup.withSettings settings).visit (compiled.plan.inputsOf node.node) node
        (setup.walk compiled front state) := by
  rw [walk_append _ (first.running_front strict), first.walk_front strict,
    walk_cons _ _ _ first.found, first.isStopped_visit strict, if_pos rfl]

theorem trace_halted (note : PlannedNode → RunState σ τ → List β) (back : List NodeId) :
    (setup.withSettings settings).trace compiled note (front ++ node.node :: back) state =
      setup.trace compiled note (front ++ [node.node]) state := by
  rw [trace_append note _ first.running, trace_append note _ (first.running_front strict),
    first.walk_front strict, first.sheltered.trace_withSettings (fun _ => strict),
    trace_cons _ _ _ _ first.found, trace_cons _ _ _ _ first.found, first.isStopped_visit strict,
    if_pos rfl, trace, ite_self]

/-- The strict walk enters what is on the books after the front, and the failure. -/
theorem ledger_halted (back : List NodeId) :
    let reached := setup.walk compiled front state
    let halted :=
      (setup.withSettings settings).walk compiled (front ++ node.node :: back) state
    halted.ledger.results = reached.ledger.results ++
        [.within reached.context node.node node.type (.error fault)] ∧
      halted.ledger.skipped = reached.ledger.skipped ∧
      halted.ledger.abort = some (.nodeFailed node.node (fault.message node.node)) := by
  intro reached halted
  obtain ⟨world, observer, entry⟩ := first.visit_eq settings
  have stops : (setup.withSettings settings).stop? node.node (.finished (.error fault)) =
      some (.nodeFailed node.node (fault.message node.node)) := by
    simp only [stop?, withSettings, strict, Bool.false_eq_true, if_false]
  have ends : halted = (setup.withSettings settings).entered node (.finished (.error fault))
      reached world observer := (first.halted strict).trans entry
  rw [ends]
  refine ⟨rfl, rfl, ?_⟩
  rw [entered, stops, Option.some_or]

end Halted

theorem trace_tolerated (tolerant : setup.settings.continueOnError = true)
    (note : PlannedNode → RunState σ τ → List β) (back : List NodeId) :
    setup.trace compiled note (front ++ node.node :: back) state =
      setup.trace compiled note (front ++ [node.node]) state ++
        setup.trace compiled note back (setup.visit (compiled.plan.inputsOf node.node) node
          (setup.walk compiled front state)) := by
  obtain ⟨running, goes⟩ := first.tolerated tolerant []
  have unstopped : (setup.walk compiled (front ++ [node.node]) state).ledger.isStopped = false := by
    rw [goes, walk]
    exact running
  rw [List.append_cons, trace_append note back unstopped, goes, walk]

/-- Of the calls of the tolerant walk, those for nodes behind the failure are not made. -/
theorem answeredCalls_halted (tolerant : setup.settings.continueOnError = true)
    (strict : settings.continueOnError = false)
    (pending : state.Pending compiled (front ++ node.node :: back)) :
    (setup.withSettings settings).answeredCalls compiled (front ++ node.node :: back) state =
      (setup.answeredCalls compiled (front ++ node.node :: back) state).filter
        fun made => !back.contains made.node := by
  have cut : (setup.withSettings settings).answeredCalls compiled (front ++ node.node :: back)
      state = setup.answeredCalls compiled (front ++ [node.node]) state :=
    first.trace_halted strict _ back
  have whole : setup.answeredCalls compiled (front ++ node.node :: back) state =
      setup.answeredCalls compiled (front ++ [node.node]) state ++
        setup.answeredCalls compiled back (setup.visit (compiled.plan.inputsOf node.node) node
          (setup.walk compiled front state)) :=
    first.trace_tolerated tolerant _ back
  have unique := pending.unique
  have planned := pending.planned
  rw [List.append_cons] at unique planned
  rw [cut, whole]
  refine (filter_append_eq_left ?_ ?_).symm
  · intro made member
    have placed : made.node ∈ front ++ [node.node] :=
      mem_answeredCalls (fun id early => planned id (List.mem_append_left _ early)) member
    simpa using List.disjoint_of_nodup_append unique placed
  · intro made member
    have placed : made.node ∈ back :=
      mem_answeredCalls (fun id later => planned id (List.mem_append_right _ later)) member
    simpa using placed

/-- The tolerant walk has the same on its books, and goes on with the nodes behind the failure. -/
theorem ledger_tolerated (tolerant : setup.settings.continueOnError = true)
    (pending : state.Pending compiled (front ++ node.node :: back)) :
    let reached := setup.walk compiled front state
    let whole := setup.walk compiled (front ++ node.node :: back) state
    (∃ after, whole.ledger.results = reached.ledger.results ++
        .within reached.context node.node node.type (.error fault) :: after) ∧
      ∃ later, whole.ledger.skipped = reached.ledger.skipped ++ later ∧
        ∀ id ∈ later, id ∈ back := by
  intro reached whole
  obtain ⟨world, observer, entry⟩ := first.visit_eq setup.settings
  obtain ⟨running, goes⟩ := first.tolerated tolerant back
  have entered : setup.visit (compiled.plan.inputsOf node.node) node reached =
      setup.entered node (.finished (.error fault)) reached world observer := entry
  have goes : whole = setup.walk compiled back (setup.visit (compiled.plan.inputsOf node.node) node
      reached) := goes
  obtain ⟨_, found, _, visited⟩ := setup.visited_of_pending (pending.back setup)
  cases found.symm.trans first.found
  have unstopped : whole.ledger.isStopped = false := by
    rw [goes, isStopped_walk tolerant visited.pending]
    exact running
  obtain ⟨after, results⟩ := (setup.walk_extends visited.pending).results
  obtain ⟨later, skipped, behind⟩ := skipped_growth visited.pending (goes ▸ unstopped)
  rw [goes]
  refine ⟨⟨after, results.symm.trans ?_⟩, later, skipped.trans ?_, behind⟩
  · rw [entered, List.append_cons]
    rfl
  · rw [entered]
    rfl

end FirstFailure

end RunSetup

/-- `cut` goes with `whole` up to the first failure in it, and ends there. -/
structure RunResponse.CutOff (order : List NodeId) (whole cut : RunResponse) (failure : NodeResult)
    (front back : List NodeId) : Prop where
  order : order = front ++ failure.node :: back
  failed : failure.isSuccess = false
  results : ∃ before after, whole.results = before ++ failure :: after ∧
    (∀ result ∈ before, result.isSuccess = true) ∧ cut.results = before ++ [failure]
  skipped : cut.skipped = whole.skipped.filter fun id => front.contains id
  status : cut.status = .failed
  error : ∃ error, failure.error? = some error ∧
    cut.summaryToJson.field? "error" =
      some (.string ("Node " ++ inQuotes failure.node ++ " failed: " ++ error))

namespace Orchestrator

variable {orchestrator : Orchestrator σ τ} {request : RunRequest} {compiled : CompiledWorkflow}
  {tolerant strict : RunOptions} {world : σ} {observer : τ} {front back : List NodeId}
  {node : PlannedNode} {fault : NodeFault}

theorem sheltered_of_strict (compiles : request.workflow.compile = .ok compiled)
    (halts : (strict.resolve orchestrator.defaults).continueOnError = false) :
    (orchestrator.setup strict).Sheltered compiled compiled.plan.order
      (orchestrator.start (request.withOptions strict) compiled world observer) where
  pending := pending_start compiles world observer
  grounded := grounded_start compiles world observer
  unharmed := unharmed_start orchestrator _ compiled world observer
  running := rfl
  halting _ _ _ _ _ := halts

theorem sheltered_of_unfailed (compiles : request.workflow.compile = .ok compiled)
    (tolerates : (tolerant.resolve orchestrator.defaults).continueOnError = true)
    (unfailed : (orchestrator.final (request.withOptions tolerant) compiled world
      observer).ledger.failed = []) :
    (orchestrator.setup tolerant).Sheltered compiled compiled.plan.order
      (orchestrator.start (request.withOptions tolerant) compiled world observer) where
  pending := pending_start compiles world observer
  grounded := grounded_start compiles world observer
  unharmed := unharmed_start orchestrator _ compiled world observer
  running := rfl
  halting := by
    intro id placed fate settled fails
    obtain ⟨fault, rfl⟩ := Fate.isFailure_iff.mp fails
    have unstopped : (orchestrator.final (request.withOptions tolerant) compiled world
        observer).ledger.isStopped = false :=
      isStopped_final orchestrator world observer compiles tolerates
    have failed := mem_failed_final (RunRequest.compile_withOptions compiles tolerant) unstopped
      placed settled
    rw [unfailed] at failed
    cases failed

theorem exists_firstFailure (compiles : request.workflow.compile = .ok compiled)
    (tolerates : (tolerant.resolve orchestrator.defaults).continueOnError = true)
    (failed : (orchestrator.final (request.withOptions tolerant) compiled world
      observer).ledger.failed ≠ []) :
    ∃ front node fault back, compiled.plan.order = front ++ node.node :: back ∧
      (orchestrator.setup tolerant).FirstFailure compiled
        (orchestrator.start (request.withOptions tolerant) compiled world observer) front node
        fault := by
  have compilesToo := RunRequest.compile_withOptions compiles tolerant
  have unstopped : (orchestrator.final (request.withOptions tolerant) compiled world
      observer).ledger.isStopped = false :=
    isStopped_final orchestrator world observer compiles tolerates
  refine RunSetup.exists_firstFailure tolerates (pending_start compilesToo world observer)
    (grounded_start compilesToo world observer)
    (unharmed_start orchestrator _ compiled world observer) rfl ?_
  obtain ⟨id, member⟩ := List.exists_mem_of_ne_nil _ failed
  rw [failed_final compilesToo unstopped, RunState.mem_postings] at member
  obtain ⟨placed, inside, node, fate, _, settled, posted⟩ := member
  exact ⟨placed, inside, (Ledger.hasFailed_of_fate? settled).trans (Fate.mem_failures.mp posted).1⟩

theorem orchestrate_of_unfailed (compiles : request.workflow.compile = .ok compiled)
    (tolerates : (tolerant.resolve orchestrator.defaults).continueOnError = true)
    (halts : (strict.resolve orchestrator.defaults).continueOnError = false)
    (unfailed : (orchestrator.final (request.withOptions tolerant) compiled world
      observer).ledger.failed = []) :
    orchestrator.orchestrate (request.withOptions strict) world observer =
        orchestrator.orchestrate (request.withOptions tolerant) world observer ∧
      orchestrator.answeredCalls (request.withOptions strict) compiled world observer =
        orchestrator.answeredCalls (request.withOptions tolerant) compiled world observer := by
  have sheltered := sheltered_of_unfailed compiles tolerates unfailed
  have same : orchestrator.final (request.withOptions strict) compiled world observer =
      orchestrator.final (request.withOptions tolerant) compiled world observer :=
    sheltered.walk_withSettings fun _ => halts
  refine ⟨?_, sheltered.trace_withSettings (fun _ => halts) _⟩
  rw [orchestrate_compiled (RunRequest.compile_withOptions compiles strict),
    orchestrate_compiled (RunRequest.compile_withOptions compiles tolerant), same]
  rfl

theorem orchestrate_of_strict (compiles : request.workflow.compile = .ok compiled)
    (halts : (strict.resolve orchestrator.defaults).continueOnError = false)
    {other : RunOptions}
    (otherHalts : (other.resolve orchestrator.defaults).continueOnError = false) :
    orchestrator.orchestrate (request.withOptions other) world observer =
      orchestrator.orchestrate (request.withOptions strict) world observer := by
  have same : orchestrator.final (request.withOptions other) compiled world observer =
      orchestrator.final (request.withOptions strict) compiled world observer :=
    (sheltered_of_strict compiles halts).walk_withSettings fun _ => otherHalts
  rw [orchestrate_compiled (RunRequest.compile_withOptions compiles other),
    orchestrate_compiled (RunRequest.compile_withOptions compiles strict), same]
  rfl

section FirstFailure

variable (first : (orchestrator.setup tolerant).FirstFailure compiled
  (orchestrator.start (request.withOptions tolerant) compiled world observer) front node fault)

include first

theorem skipped_front :
    ∀ id ∈ ((orchestrator.setup tolerant).walk compiled front
      (orchestrator.start (request.withOptions tolerant) compiled world
        observer)).ledger.skipped, id ∈ front := by
  have accounts := RunSetup.accounts_walk first.sheltered.pending first.running
    Ledger.Accounts.start first.sheltered.pending.unique
  exact fun id member => accounts.skipped.subset member

theorem isSuccess_front (halts : (strict.resolve orchestrator.defaults).continueOnError = false) :
    ∀ result ∈ ((orchestrator.setup tolerant).walk compiled front
      (orchestrator.start (request.withOptions tolerant) compiled world
        observer)).ledger.results, result.isSuccess = true := by
  have same := first.walk_front halts
  have unstopped := first.running
  rw [← same] at unstopped ⊢
  have pending := first.sheltered.pending
  have unfailed := RunSetup.failed_eq_nil_of_unstopped halts pending unstopped rfl
  rw [RunSetup.failures_walk pending rfl, NodeResult.failures, List.map_eq_nil_iff,
    List.filter_eq_nil_iff] at unfailed
  intro result member
  simpa using unfailed result member

variable (compiles : request.workflow.compile = .ok compiled)
  (tolerates : (tolerant.resolve orchestrator.defaults).continueOnError = true)
  (halts : (strict.resolve orchestrator.defaults).continueOnError = false)
  (split : compiled.plan.order = front ++ node.node :: back)

include compiles tolerates halts split

theorem answeredCalls_strict :
    orchestrator.answeredCalls (request.withOptions strict) compiled world observer =
      (orchestrator.answeredCalls (request.withOptions tolerant) compiled world observer).filter
        fun made => !back.contains made.node := by
  have pending : (orchestrator.start (request.withOptions tolerant) compiled world
      observer).Pending compiled (front ++ node.node :: back) :=
    split ▸ pending_start compiles world observer
  have calls := first.answeredCalls_halted tolerates halts pending
  rw [← split] at calls
  exact calls

theorem cutOff_of_firstFailure :
    ∃ failure, (orchestrator.orchestrate (request.withOptions tolerant) world observer).1.CutOff
      compiled.plan.order
      (orchestrator.orchestrate (request.withOptions strict) world observer).1 failure front
      back := by
  have pending : (orchestrator.start (request.withOptions tolerant) compiled world
      observer).Pending compiled (front ++ node.node :: back) :=
    split ▸ pending_start compiles world observer
  obtain ⟨⟨after, results⟩, later, skipped, behind⟩ := first.ledger_tolerated tolerates pending
  obtain ⟨cutResults, cutSkipped, abort⟩ := first.ledger_halted halts back
  have unique := pending.unique
  rw [← split] at results skipped cutResults cutSkipped abort
  have stopped : (orchestrator.final (request.withOptions strict) compiled world
      observer).ledger.isStopped = true := congrArg Option.isSome abort
  rw [response_withOptions orchestrator compiles tolerant,
    response_withOptions orchestrator compiles strict]
  refine ⟨_, split, rfl, ⟨_, after, results, isSuccess_front first halts, cutResults⟩, ?_, ?_,
    _, rfl, ?_⟩
  · refine cutSkipped.trans (Eq.trans ?_ (congrArg _ skipped).symm)
    refine (filter_append_eq_left ?_ ?_).symm
    · intro id member
      simpa using skipped_front first id member
    · intro id member
      simpa using fun early =>
        List.disjoint_of_nodup_append unique early (List.mem_cons_of_mem _ (behind id member))
  · simp only [RunResponse.ofLedger, finalStatus, stopped, if_true]
  · exact RunResponse.summary_error (congrArg (Option.map RunFault.message) abort)

end FirstFailure

/-- With no failure tolerated, a run is that with failures tolerated up to the first failure. So no
node of it lacks a dependency, and the policy for those that do is of no account. -/
theorem orchestrate_failFast (orchestrator : Orchestrator σ τ) (request : RunRequest)
    (tolerant strict : RunOptions) (compiles : request.workflow.compile = .ok compiled)
    (tolerates : (tolerant.resolve orchestrator.defaults).continueOnError = true)
    (halts : (strict.resolve orchestrator.defaults).continueOnError = false) (world : σ)
    (observer : τ) :
    let whole := orchestrator.orchestrate (request.withOptions tolerant) world observer
    let cut := orchestrator.orchestrate (request.withOptions strict) world observer
    let calls := orchestrator.answeredCalls (request.withOptions tolerant) compiled world observer
    let cutCalls := orchestrator.answeredCalls (request.withOptions strict) compiled world observer
    (orchestrator.recorded.orchestrate (request.withOptions strict) (world, []) observer).2.1.2 =
        cutCalls.map AnsweredCall.call ∧
      (whole.1.failed = [] → cut = whole ∧ cutCalls = calls) ∧
      (whole.1.failed ≠ [] →
        ∃ failure front back, whole.1.CutOff compiled.plan.order cut.1 failure front back ∧
          cutCalls = calls.filter fun made => !back.contains made.node) ∧
      (∀ id source, (id, .lack source) ∉
        orchestrator.decisions (request.withOptions strict) compiled world observer) ∧
      (∀ id fate, (orchestrator.final (request.withOptions strict) compiled world
        observer).ledger.fate? id = some fate → fate.isDeprived = false) ∧
      ∀ other : RunOptions, (other.resolve orchestrator.defaults).continueOnError = false →
        orchestrator.orchestrate (request.withOptions other) world observer = cut := by
  intro whole cut calls cutCalls
  have sheltered : (orchestrator.setup strict).Sheltered compiled compiled.plan.order
      (orchestrator.start (request.withOptions strict) compiled world observer) :=
    sheltered_of_strict compiles halts
  have wholeRun := response_withOptions orchestrator compiles tolerant world observer
  refine ⟨?_, ?_, ?_, fun id source => sheltered.not_lack source,
    fun id fate settled => sheltered.not_deprived settled,
    fun other otherHalts => orchestrate_of_strict compiles halts otherHalts⟩
  · rw [orchestrate_recorded_answeredCalls orchestrator
      (RunRequest.compile_withOptions compiles strict)]
  · intro unfailed
    rw [wholeRun] at unfailed
    exact orchestrate_of_unfailed compiles tolerates halts unfailed
  · intro failed
    rw [wholeRun] at failed
    obtain ⟨front, node, fault, back, split, first⟩ :=
      exists_firstFailure compiles tolerates failed
    obtain ⟨failure, cutOff⟩ := cutOff_of_firstFailure first compiles tolerates halts split
    exact ⟨failure, front, back, cutOff, answeredCalls_strict first compiles tolerates halts split⟩

/-- The fork has two failures; the strict run ends with the first of them. -/
theorem orchestrate_failFast_forked :
    forked.compile = .ok (forked.assemble forkedOrder) ∧
      let whole := (gateways.orchestrate
        (forkedRequest.withOptions { continueOnError := some true }) () ()).1
      let cut := (gateways.orchestrate
        (forkedRequest.withOptions { continueOnError := some false }) () ()).1
      whole.failed = ["lost", "late"] ∧ cut.failed = ["lost"] ∧
        ∃ failure front back, whole.CutOff forkedOrder cut failure front back := by
  have compiles : forkedRequest.workflow.compile = .ok (forked.assemble forkedOrder) := by
    decide +kernel
  have failed : (gateways.orchestrate
      (forkedRequest.withOptions { continueOnError := some true }) () ()).1.failed =
        ["lost", "late"] := by
    decide +kernel
  obtain ⟨_, _, ends, _⟩ := orchestrate_failFast gateways forkedRequest
    { continueOnError := some true } { continueOnError := some false } compiles rfl rfl () ()
  obtain ⟨failure, front, back, cutOff, _⟩ := ends (by rw [failed]; exact List.cons_ne_nil _ _)
  exact ⟨compiles, failed, by decide +kernel, failure, front, back, cutOff⟩

end Orchestrator

end Flowline
