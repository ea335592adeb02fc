import Flowline.Proofs.Run.Final

/-!
One request under different settings. The settings matter to a run only where a node fails or lacks
a dependency.
-/

namespace Flowline

variable {σ τ : Type}

def RunRequest.withOptions (request : RunRequest) (options : RunOptions) : RunRequest :=
  { request with options }

theorem RunRequest.compile_withOptions {request : RunRequest} {compiled : CompiledWorkflow}
    (compiles : request.workflow.compile = .ok compiled) (options : RunOptions) :
    (request.withOptions options).workflow.compile = .ok compiled := compiles

namespace RunSetup

def withSettings (setup : RunSetup σ τ) (settings : RunSettings) : RunSetup σ τ :=
  { setup with settings }

variable {setup : RunSetup σ τ} {settings : RunSettings} {compiled : CompiledWorkflow}
  {state : RunState σ τ} {id : NodeId} {rest : List NodeId} {node : PlannedNode}

theorem settled_withSettings {mappings : List InputMapping}
    (provided : ∀ source,
      decideNode mappings state.context state.ledger.branchSkipped ≠ .lack source) :
    (setup.withSettings settings).settled mappings node state =
      setup.settled mappings node state := by
  unfold settled
  cases decided : decideNode mappings state.context state.ledger.branchSkipped with
  | skip triggers => rfl
  | lack source => exact absurd decided (provided source)
  | run inputs => rfl

theorem visit_withSettings {mappings : List InputMapping}
    (provided : ∀ source,
      decideNode mappings state.context state.ledger.branchSkipped ≠ .lack source)
    (alike : (setup.settled mappings node state).1.isFailure = true →
      settings.continueOnError = setup.settings.continueOnError) :
    (setup.withSettings settings).visit mappings node state =
      setup.visit mappings node state := by
  unfold settled at alike
  unfold visit
  cases decided : decideNode mappings state.context state.ledger.branchSkipped with
  | skip triggers => rfl
  | lack source => exact absurd decided (provided source)
  | run inputs =>
      rw [decided] at alike
      simp only [runNode_eq]
      cases attempted : (setup.registry.attempt node inputs state.world).1 with
      | ok output =>
          have same : ((setup.withSettings settings).registry.attempt node inputs
              state.world).1 = .ok output := attempted
          rw [same]
          rfl
      | error fault =>
          have same : ((setup.withSettings settings).registry.attempt node inputs
              state.world).1 = .error fault := attempted
          have tolerance : settings.continueOnError = setup.settings.continueOnError :=
            alike (by simp [settle, attempted, Fate.isFailure])
          rw [same]
          simp only [enterResult, NodeResult.within, recordFailure, withSettings, tolerance]
          rfl

end RunSetup

namespace Orchestrator

theorem response_withOptions (orchestrator : Orchestrator σ τ) {request : RunRequest}
    {compiled : CompiledWorkflow} (compiles : request.workflow.compile = .ok compiled)
    (options : RunOptions) (world : σ) (observer : τ) :
    (orchestrator.orchestrate (request.withOptions options) world observer).1 =
      .ofLedger
        (finalStatus
          (orchestrator.final (request.withOptions options) compiled world observer).ledger)
        compiled.nodeCount
        (orchestrator.final (request.withOptions options) compiled world observer).ledger := by
  rw [orchestrate_compiled (RunRequest.compile_withOptions compiles options)]

end Orchestrator

end Flowline
