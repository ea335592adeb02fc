import Flowline.Workflow.Format

/-!
How a run deals with failures, and requests for runs. A request may override the settings one by
one.
-/

namespace Flowline

open Json.Decoder (string bool choice option object)

/-- What becomes of a node whose data source has failed. -/
inductive MissingDependencyPolicy where
  | fail
  | skip
deriving DecidableEq

namespace MissingDependencyPolicy

def name : MissingDependencyPolicy → String
  | .fail => "fail"
  | .skip => "skip"

def decoder : Json.Decoder MissingDependencyPolicy := choice [("fail", .fail), ("skip", .skip)]

end MissingDependencyPolicy

structure RunSettings where
  continueOnError : Bool := true
  missingDependency : MissingDependencyPolicy := .fail
deriving DecidableEq

namespace RunSettings

def toJson (settings : RunSettings) : Json :=
  Json.ofFields [
    ("continue_on_error", .bool settings.continueOnError),
    ("missing_dependency_policy", .string settings.missingDependency.name)]

def decoder : Json.Decoder RunSettings :=
  Json.Record.make RunSettings.mk
    |>.field "continue_on_error" bool (.default true)
    |>.field "missing_dependency_policy" MissingDependencyPolicy.decoder (.default .fail)
    |>.decoder "OrchestratorConfig"

end RunSettings

structure RunOptions where
  continueOnError : Option Bool := none
  missingDependency : Option MissingDependencyPolicy := none
deriving DecidableEq

namespace RunOptions

def resolve (options : RunOptions) (defaults : RunSettings) : RunSettings where
  continueOnError := options.continueOnError.getD defaults.continueOnError
  missingDependency := options.missingDependency.getD defaults.missingDependency

def toJson (options : RunOptions) : Json :=
  Json.ofFields <|
    Json.optionalField "continueOnError" (options.continueOnError.map .bool) ++
    Json.optionalField "missingDependencyPolicy"
      (options.missingDependency.map fun policy => .string policy.name)

def decoder : Json.Decoder RunOptions :=
  Json.Record.make RunOptions.mk
    |>.field "continueOnError" (option bool) (.default none)
    |>.field "missingDependencyPolicy" (option MissingDependencyPolicy.decoder) (.default none)
    |>.decoder "OrchestrationOptions"

end RunOptions

structure RunRequest where
  workflowId : String
  pipelineId : String
  workflow : Workflow
  initialData : Json.Object := []
  options : RunOptions := {}
deriving DecidableEq

namespace RunRequest

/-- A request under the workflow's own id. -/
def ofWorkflow (workflow : Workflow) (pipelineId : String := "") (initialData : Json.Object := [])
    (options : RunOptions := {}) : RunRequest where
  workflowId := workflow.id
  pipelineId
  workflow
  initialData
  options

def decoder : Json.Decoder RunRequest :=
  Json.Record.make RunRequest.mk
    |>.field "workflowId" string .required
    |>.field "pipelineId" string .required
    |>.field "workflow" Workflow.decoder .required
    |>.field "initialData" object (.default [])
    |>.field "options" RunOptions.decoder (.default {})
    |>.decoder "OrchestrationRequest"

end RunRequest

end Flowline
