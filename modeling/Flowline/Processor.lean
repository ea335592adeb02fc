import Flowline.Context
import Flowline.Descriptor
import Flowline.Json.Interpretation
import Flowline.Plan.Compile

/-!
Processors, the units that nodes run. A processor takes inputs and a configuration to an output or
an error; on the way it may change a state of type `σ`, such as the traffic of an HTTP client.
-/

namespace Flowline

inductive RunError where
  | compilation (error : CompileError)
  | unknownNodeType (node : NodeId) (type : String)
  | missingInput (input : String)
  | invalidConfig (node : String) (problem : String)
  | failed (problem : String)
  | context (error : ContextError)
  | unreadable (error : Json.ReadError)
deriving DecidableEq

def RunError.message : RunError → String
  | .compilation error => "Compilation failed: " ++ error.message
  | .unknownNodeType node type =>
    "No processor registered for node type " ++ inQuotes type ++ " (node " ++ inQuotes node ++ ")"
  | .missingInput input => "Missing required input: " ++ input
  | .invalidConfig node problem =>
    "Invalid configuration for node " ++ inQuotes node ++ ": " ++ problem
  | .failed problem => "Node execution failed: " ++ problem
  | .context error => error.message
  | .unreadable error => "Serialization error: " ++ error.message

def Descriptor.inputsPresent (descriptor : Descriptor) (inputs : Json.Object) : Bool :=
  descriptor.requiredInputs.all (Json.Object.hasValue inputs)

def Descriptor.missingInputs (descriptor : Descriptor) (inputs : Json.Object) : List PortId :=
  descriptor.requiredInputs.filter fun port => !Json.Object.hasValue inputs port

/-- A processor is asked whether it `accepts` its inputs before it may `process` them. It may look
at the state to tell, but does not change it. -/
structure Processor (σ : Type) where
  descriptor : Descriptor
  accepts : Json.Object → σ → Bool := fun inputs _ => descriptor.inputsPresent inputs
  process : (inputs config : Json.Object) → σ → Except RunError Output × σ

namespace Processor

variable {σ : Type}

def pure (descriptor : Descriptor)
    (process : (inputs config : Json.Object) → Except RunError Output)
    (accepts : Json.Object → Bool := descriptor.inputsPresent) : Processor σ where
  descriptor
  accepts := fun inputs _ => accepts inputs
  process := fun inputs config state => (process inputs config, state)

end Processor

end Flowline
