import Flowline.Builtin.Registry
import Flowline.Command.Arguments
import Flowline.Command.Files
import Flowline.Http.Offline
import Flowline.Monitor.Journal
import Flowline.Run.Response
import Flowline.Validation

/-!
The commands. Each prints its output and may fail all the same: an invalid workflow and a failed run
are reported before they count as failures.
-/

namespace Flowline.Command

inductive CommandError where
  | unreadableConfig (path : String) (error : FileError)
  | malformedConfig (error : Json.ReadError)
  | unreadableWorkflow (path : String) (error : FileError)
  | malformedWorkflow (path : String) (error : Json.ReadError)
  | inputNotObject (input : Json)
  | malformedInput (error : Json.ReadError)
  | notCompiled (error : CompileError)
  | invalid (count : Nat)
  | runFailed (id : String) (status : RunStatus)

def CommandError.message : CommandError → String
  | .unreadableConfig path error =>
    "Failed to read config " ++ Text.quotedPath path ++ ": " ++ error.message
  | .malformedConfig error => "Failed to parse config: " ++ error.message
  | .unreadableWorkflow path error =>
    "Failed to read workflow " ++ Text.quotedPath path ++ ": " ++ error.message
  | .malformedWorkflow path error =>
    "Invalid workflow " ++ Text.quotedPath path ++ ": " ++ error.message
  | .inputNotObject input => "--input must be a JSON object: got " ++ input.compact
  | .malformedInput error => "--input must be a JSON object: " ++ error.message
  | .notCompiled error => error.message
  | .invalid count => "Workflow has " ++ count.repr ++ " validation error(s)"
  | .runFailed id status =>
    "Workflow run " ++ id ++ " finished with status " ++ status.title

/-- What a command prints and logs, and how it fails. -/
structure Outcome where
  output : String := ""
  journal : Journal := []
  error : Option CommandError := none

namespace Outcome

def printed (json : Json) : Outcome := { output := json.pretty ++ "\n" }

def failed (error : CommandError) : Outcome := { error := some error }

def ofResult (result : Except CommandError Outcome) : Outcome :=
  match result with
  | .ok outcome => outcome
  | .error error => .failed error

end Outcome

def defaultConfigPath : String := "flowdrop.json"

def parseConfig (text : String) : Except CommandError Settings :=
  (Settings.decoder.fromText text).mapError .malformedConfig

/-- The settings in the named file, which must be there, or in the default one, which need not. -/
def loadConfig (files : Files) (path : Option String) :
    Except CommandError (Settings × Journal) := do
  let source := path.getD defaultConfigPath
  match path, files source with
  | none, .error .notFound => return ({}, [])
  | _, .error error => .error (.unreadableConfig source error)
  | _, .ok text =>
    let settings ← parseConfig text
    return (settings, [⟨.info, "Configuration loaded from " ++ Text.quotedPath source⟩])

def readWorkflow (files : Files) (path : String) : Except CommandError Workflow := do
  let text ← (files path).mapError (.unreadableWorkflow path)
  (Workflow.decoder.fromText text).mapError (.malformedWorkflow path)

def parseInput : Option String → Except CommandError Json.Object
  | none => .ok []
  | some text => do
    match ← (Json.read text).mapError .malformedInput with
    | .object fields => return fields
    | other => .error (.inputNotObject other)

def planToJson (compiled : CompiledWorkflow) : Json :=
  Json.ofFields [
    ("workflowId", .string compiled.workflowId),
    ("executionOrder", Json.strings compiled.plan.order),
    ("inputMappings", compiled.plan.inputsToJson),
    ("metadata", compiled.plan.summary.toJson)]

def compile (workflow : Workflow) : Outcome :=
  match workflow.compile with
  | .ok compiled => .printed (planToJson compiled)
  | .error error => .failed (.notCompiled error)

variable {σ : Type}

def validate (registry : Registry σ) (workflow : Workflow) : Outcome :=
  match workflow.validate (some registry) with
  | [] =>
    { output := "Workflow " ++ inQuotes workflow.id ++ " is valid (" ++
        workflow.nodes.length.repr ++ " nodes)\n" }
  | errors =>
    { output := String.join (errors.map fun error => "- " ++ error.message ++ "\n")
      error := some (.invalid errors.length) }

def listingToJson (verbose : Bool) (descriptor : Descriptor) : Json :=
  let schemas :=
    [("inputSchema", descriptor.inputSchema), ("outputSchema", descriptor.outputSchema),
      ("configSchema", descriptor.configSchema)]
  Json.ofFields ([
    ("type", .string descriptor.type),
    ("category", .string descriptor.category.name),
    ("label", .string descriptor.label),
    ("description", .string descriptor.description)] ++ if verbose then schemas else [])

def nodes (registry : Registry σ) (verbose : Bool) : Outcome :=
  .printed (.array (registry.descriptors.map (listingToJson verbose)))

/-- Without `failFast` the settings decide what becomes of a failed node. -/
def runOptions (failFast : Bool) : RunOptions :=
  { continueOnError := if failFast then some false else none }

def run (registry : Registry σ) (world : σ) (settings : Settings) (stamps : Stamps)
    (request : RunRequest) : Outcome :=
  let orchestrator : Orchestrator σ Journal :=
    { registry, sink := Journal.sink, defaults := settings.run, stamps }
  let (response, _, journal) := orchestrator.orchestrate request world []
  let error :=
    if response.status = .completed then none else some (.runFailed stamps.id response.status)
  { output := (response.toJson stamps).pretty ++ "\n", journal, error }

def perform (files : Files) (registry : Registry σ) (world : σ) (settings : Settings)
    (stamps : Stamps) : Action → Except CommandError Outcome
  | .run path input pipeline failFast => do
    let workflow ← readWorkflow files path
    let initial ← parseInput input
    return run registry world settings stamps
      (.ofWorkflow workflow (pipeline.getD "") initial (runOptions failFast))
  | .compile path => return compile (← readWorkflow files path)
  | .validate path => return validate registry (← readWorkflow files path)
  | .nodes verbose => return nodes registry verbose

def execute (files : Files) (stamps : Stamps) (invocation : Invocation) : Outcome :=
  match loadConfig files invocation.config with
  | .error error => .failed error
  | .ok (settings, journal) =>
    let client : Http.Client Unit := Http.Offline.client settings.nodes.http.userAgent
    let registry := builtinRegistry settings.nodes client stamps
    let outcome := Outcome.ofResult (perform files registry () settings stamps invocation.action)
    { outcome with journal := journal ++ outcome.journal }

def Invocation.paths (invocation : Invocation) : List String :=
  let config := invocation.config.getD defaultConfigPath
  match invocation.action with
  | .run path _ _ _ | .compile path | .validate path => [config, path]
  | .nodes _ => [config]

end Flowline.Command
