import Flowline.Operator

/-!
Nodes with a branch for true and a branch for false: by the truth of a value, by a comparison of
texts, and by a comparison of values.
-/

namespace Flowline

variable {σ : Type}

def branchPorts : List Port :=
  [.optional "true" "True" .trigger, .optional "false" "False" .trigger,
    .optional "result" "Result" .boolean]

/-- An output that goes on through the branch named after `result`. -/
def branchOn (result : Bool) (key : String) (value : Json) : Output :=
  (Output.ofFields [("result", .bool result), (key, value)]).withSignal (.ofBool result)

/-! By truth. -/

def booleanGatewayDescriptor : Descriptor where
  type := "boolean_gateway"
  category := .control
  label := "Boolean Gateway"
  description := "Routes execution by a true/false value"
  inputs := [.optional "value" "Value" .any]
  outputs := branchPorts
  config := []

def branchOnTruth (inputs : Json.Object) : Output :=
  let value := Json.ofOption (lookup inputs "value")
  branchOn value.isTruthy "value" value

def booleanGateway : Processor σ :=
  .pure booleanGatewayDescriptor fun inputs _ => .ok (branchOnTruth inputs)

/-! By text. -/

def ifElseDescriptor : Descriptor where
  type := "if_else"
  category := .control
  label := "If / Else"
  description := "Routes execution by comparing text"
  inputs := [.optional "text" "Text" .string]
  outputs := branchPorts ++ [.optional "text" "Text" .string]
  config := [.optional "matchText" "Match text" .string,
    (Port.optional "operator" "Operator" .string).withDefault (.string "equals")
      |>.withOptions
        ["equals", "not_equals", "contains", "starts_with", "ends_with", "regex"],
    (Port.optional "caseSensitive" "Case sensitive" .boolean).withDefault (.bool false)]

def unsupportedText (operator : Operator) : String :=
  "Operator " ++ operator.title ++ " is not supported by if_else"

def branchOnText (inputs config : Json.Object) : Except RunError Output := do
  let text := lookupText inputs "text"
  let expected := ((Entries.get? config "matchText").map Json.plainText).getD ""
  let name := Json.Object.stringOr config "operator" "equals"
  let operator ← (Operator.ofName name).mapError OperatorError.toRunError
  if operator.isTextual then
    let caseSensitive := Json.Object.boolOr config "caseSensitive" false
    let result ← (operator.evaluateText text expected caseSensitive).mapError
      OperatorError.toRunError
    return branchOn result "text" (.string text)
  else throw (.failed (unsupportedText operator))

def ifElse : Processor σ := .pure ifElseDescriptor branchOnText

/-! By value. -/

def conditionalDescriptor : Descriptor where
  type := "conditional"
  category := .control
  label := "Conditional"
  description := "Routes execution by comparing a value"
  inputs := [.optional "value" "Value" .any, .optional "compareValue" "Compare value" .any]
  outputs := branchPorts ++ [.optional "value" "Value" .any]
  config := [(Port.optional "operator" "Operator" .string).withDefault (.string "==")
      |>.withOptions
        ["==", "!=", ">", ">=", "<", "<=", "contains", "is_empty", "is_not_empty"],
    .optional "compareValue" "Compare value" .any,
    (Port.optional "caseSensitive" "Case sensitive" .boolean).withDefault (.bool true)]

def branchOnValue (inputs config : Json.Object) : Except RunError Output := do
  let value := Json.ofOption (lookup inputs "value")
  let expected := Json.ofOption (lookupOrConfig inputs config "compareValue")
  let name := Json.Object.stringOr config "operator" "=="
  let operator ← (Operator.ofName name).mapError OperatorError.toRunError
  let caseSensitive := Json.Object.boolOr config "caseSensitive" true
  let result ← (operator.evaluate value expected caseSensitive).mapError OperatorError.toRunError
  return branchOn result "value" value

def conditional : Processor σ := .pure conditionalDescriptor branchOnValue

end Flowline
