import Flowline.Proofs.Run.Accounts

/-!
What the status of a run says. A run always comes to a response, since an output is recorded only
for the node that is visited, which has none before; so what stops a run is a failure that the
settings do not tolerate, or that there is no plan to begin with.
-/

namespace Flowline

variable {σ τ : Type} {setup : RunSetup σ τ} {compiled : CompiledWorkflow} {state : RunState σ τ}
  {rest : List NodeId}

namespace RunResponse

/-- The summary has an error where the response has a fault. -/
theorem isSome_summary_error_iff (response : RunResponse) :
    (response.summaryToJson.field? "error").isSome = true ↔ response.fault.isSome = true := by
  cases ended : response.fault with
  | some fault =>
      have told : response.error? = some fault.message := by rw [error?, ended]; rfl
      rw [summary_error told]
      exact iff_of_true rfl rfl
  | none =>
      have untold : response.error? = none := by rw [error?, ended]; rfl
      have absent : response.summaryToJson.field? "error" = none := by
        refine Entries.get?_ofList_eq_none ?_
        rw [untold]
        simp [Json.optionalField]
      rw [absent]
      exact iff_of_false Bool.false_ne_true Bool.false_ne_true

end RunResponse

namespace RunSetup

/-- Only a failed node stops a walk. -/
theorem fault_walk (pending : state.Pending compiled rest)
    (initially : ∀ error, state.ledger.abort ≠ some (.raised error)) (error : RunError) :
    (setup.walk compiled rest state).ledger.abort ≠ some (.raised error) := by
  refine setup.walk_keeps (fun next => ∀ error, next.ledger.abort ≠ some (.raised error)) ?_
    pending initially error
  intro node fate next world observer unraised error raised
  rcases Option.or_eq_some_iff.mp raised with stopped | ⟨_, earlier⟩
  · unfold stop? at stopped
    split at stopped
    · split at stopped <;> cases stopped
    · cases stopped
  · exact unraised error earlier

theorem isStopped_walk_iff (pending : state.Pending compiled rest)
    (running : state.ledger.isStopped = false) (accounts : state.ledger.Accounts [])
    (unfailed : state.ledger.failed = []) :
    (setup.walk compiled rest state).ledger.isStopped = true ↔
      setup.settings.continueOnError = false ∧
        (setup.walk compiled rest state).ledger.failed ≠ [] := by
  constructor
  · intro stopped
    have strict : setup.settings.continueOnError = false := by
      by_contra tolerant
      rw [isStopped_walk (eq_true_of_ne_false tolerant) pending, running] at stopped
      contradiction
    obtain ⟨_, last, _, _, _, _, failed⟩ :=
      accounts_of_stopped pending running stopped accounts unfailed
    exact ⟨strict, by rw [failed]; exact List.cons_ne_nil _ _⟩
  · rintro ⟨strict, failed⟩
    by_contra unstopped
    exact failed (failed_eq_nil_of_unstopped strict pending (eq_false_of_ne_true unstopped)
      unfailed)

end RunSetup

/-- A context takes the output of every node that is still to be visited. -/
theorem RunState.Pending.record {id : NodeId} (pending : state.Pending compiled rest)
    (member : id ∈ rest) (output : Output) :
    ∃ context, state.context.record id output = .ok context := by
  have absent : state.context.output? id = none := by
    rw [pending.agreed, pending.fresh id member]
    rfl
  have vacant : state.context.hasOutput id = false := Entries.has_eq_false_iff.mpr absent
  rw [Context.record, vacant]
  exact ⟨_, rfl⟩

namespace Orchestrator

variable {orchestrator : Orchestrator σ τ} {request : RunRequest} {world : σ} {observer : τ}

theorem orchestrate_uncompiled (orchestrator : Orchestrator σ τ) {error : CompileError}
    (fails : request.workflow.compile = .error error) (world : σ) (observer : τ) :
    (orchestrator.orchestrate request world observer).1 =
        .ofLedger .failed request.workflow.nodes.length (Ledger.stop {} (.notCompiled error)) ∧
      (orchestrator.orchestrate request world observer).2.1 = world := by
  rw [orchestrate, fails]
  exact ⟨rfl, rfl⟩

theorem orchestrate_status (orchestrator : Orchestrator σ τ) (request : RunRequest) (world : σ)
    (observer : τ) :
    (orchestrator.orchestrate request world observer).1.status =
      if (orchestrator.orchestrate request world observer).1.fault.isSome then .failed
      else .completed := by
  cases compiles : request.workflow.compile with
  | error error => rw [(orchestrator.orchestrate_uncompiled compiles world observer).1]; rfl
  | ok compiled => rw [orchestrate_compiled compiles]; rfl

theorem isStopped_final_iff (compiles : request.workflow.compile = .ok compiled) :
    (orchestrator.final request compiled world observer).ledger.isStopped = true ↔
      (request.options.resolve orchestrator.defaults).continueOnError = false ∧
        (orchestrator.final request compiled world observer).ledger.failed ≠ [] :=
  RunSetup.isStopped_walk_iff (pending_start compiles world observer) rfl .start rfl

/-- A run has a fault if there is no plan, or if failures are not tolerated and there was one. -/
theorem isSome_fault_iff (orchestrator : Orchestrator σ τ) (request : RunRequest) (world : σ)
    (observer : τ) :
    (orchestrator.orchestrate request world observer).1.fault.isSome = true ↔
      (∃ error, request.workflow.compile = .error error) ∨
        (request.options.resolve orchestrator.defaults).continueOnError = false ∧
          (orchestrator.orchestrate request world observer).1.failed ≠ [] := by
  cases compiles : request.workflow.compile with
  | error error =>
      rw [(orchestrator.orchestrate_uncompiled compiles world observer).1]
      exact iff_of_true rfl (Or.inl ⟨error, rfl⟩)
  | ok compiled =>
      simp only [orchestrate_compiled compiles, reduceCtorEq, exists_false, false_or]
      exact isStopped_final_iff compiles

theorem fault_ne_raised (orchestrator : Orchestrator σ τ) (request : RunRequest) (world : σ)
    (observer : τ) (error : RunError) :
    (orchestrator.orchestrate request world observer).1.fault ≠ some (.raised error) := by
  cases compiles : request.workflow.compile with
  | error problem =>
      rw [(orchestrator.orchestrate_uncompiled compiles world observer).1]
      exact fun raised => by cases raised
  | ok compiled =>
      rw [orchestrate_compiled compiles]
      exact RunSetup.fault_walk (pending_start compiles world observer)
        (fun _ raised => by cases raised) error

/-- A run is completed or failed. It is failed if the workflow does not compile, or else if failures
are not tolerated and there was one; the summary has an error in just these cases. The context never
refuses an output, and of a workflow that does not compile nothing is run. -/
theorem orchestrate_verdict (orchestrator : Orchestrator σ τ) (request : RunRequest) (world : σ)
    (observer : τ) :
    let response := (orchestrator.orchestrate request world observer).1
    let settings := request.options.resolve orchestrator.defaults
    (response.status = .completed ∨ response.status = .failed) ∧
      (response.status = .failed ↔
        (∃ error, request.workflow.compile = .error error) ∨
          settings.continueOnError = false ∧ response.failed ≠ []) ∧
      ((response.summaryToJson.field? "error").isSome = true ↔ response.status = .failed) ∧
      (∀ error, response.fault ≠ some (.raised error)) ∧
      (∀ compiled, request.workflow.compile = .ok compiled →
        ∀ before id after, compiled.plan.order = before ++ id :: after → ∀ output,
          ∃ context, ((orchestrator.setup request.options).walk compiled before
            (orchestrator.start request compiled world observer)).context.record id output =
              .ok context) ∧
      ∀ error, request.workflow.compile = .error error →
        (orchestrator.recorded.orchestrate request (world, []) observer).2.1 = (world, []) ∧
          response.results = [] ∧ response.skipped = [] ∧ response.failed = [] ∧
          response.summaryToJson.field? "total_nodes" =
            some (Json.ofNat request.workflow.nodes.length) ∧
          response.summaryToJson.field? "error" = some (.string error.message) := by
  intro response settings
  have status : response.status = if response.fault.isSome then .failed else .completed :=
    orchestrate_status orchestrator request world observer
  have failed : response.status = .failed ↔ response.fault.isSome = true := by
    rw [status]
    split <;> simp_all
  refine ⟨?_, failed.trans (isSome_fault_iff orchestrator request world observer),
    response.isSome_summary_error_iff.trans failed.symm,
    fault_ne_raised orchestrator request world observer, ?_, ?_⟩
  · rw [status]
    split
    · exact Or.inr rfl
    · exact Or.inl rfl
  · intro compiled compiles before id after split output
    have pending : (orchestrator.start request compiled world observer).Pending compiled
        (before ++ id :: after) := split ▸ pending_start compiles world observer
    exact (pending.back (orchestrator.setup request.options)).record List.mem_cons_self output
  · intro error fails
    have run := (orchestrator.orchestrate_uncompiled fails world observer).1
    have uncalled := (orchestrator.recorded.orchestrate_uncompiled fails (world, []) observer).2
    refine ⟨uncalled, ?_⟩
    simp only [response, run]
    exact ⟨rfl, rfl, rfl, (RunResponse.summary_counts _).1, RunResponse.summary_error rfl⟩

/-- A node that feeds itself has no place in an order. -/
def loopedRequest : RunRequest :=
  .ofWorkflow { forked with connections := [⟨"lost", "lost"⟩] }

theorem orchestrate_verdict_looped :
    loopedRequest.workflow.compile = .error (.cycle ["lost"]) ∧
      (gateways.orchestrate loopedRequest () ()).1.status = .failed ∧
      (gateways.orchestrate loopedRequest () ()).1.results = [] ∧
      ((gateways.orchestrate strictRequest () ()).1.summaryToJson.field? "error").isSome =
        true := by
  have cyclic : loopedRequest.workflow.compile = .error (.cycle ["lost"]) := by decide +kernel
  have stopped : (gateways.orchestrate strictRequest () ()).1.status = .failed := by
    decide +kernel
  obtain ⟨_, failed, _, _, _, unrun⟩ := orchestrate_verdict gateways loopedRequest () ()
  obtain ⟨_, _, told, _⟩ := orchestrate_verdict gateways strictRequest () ()
  exact ⟨cyclic, failed.mpr (Or.inl ⟨_, cyclic⟩), (unrun _ cyclic).2.1, told.mpr stopped⟩

end Orchestrator

end Flowline
