import Flowline.Lookup

/-!
The node that applies an arithmetic operation to two numbers.
-/

namespace Flowline

inductive Operation where
  | add
  | subtract
  | multiply
  | divide
  | modulo
  | power
deriving DecidableEq

inductive CalculationError where
  | unknownOperation (name : String)
  | notANumber (operand : PortId) (value : Json)
  | divisionByZero
deriving DecidableEq

def CalculationError.message : CalculationError → String
  | .unknownOperation name => "Unknown operation '" ++ name ++ "'"
  | .notANumber operand value =>
    "Operand '" ++ operand ++ "' is not a number: " ++ value.compact
  | .divisionByZero => "Division by zero"

def CalculationError.toRunError (error : CalculationError) : RunError := .failed error.message

namespace Operation

def spellings : List (String × Operation) := [
  ("add", .add), ("+", .add), ("subtract", .subtract), ("-", .subtract),
  ("multiply", .multiply), ("*", .multiply), ("divide", .divide), ("/", .divide),
  ("modulo", .modulo), ("%", .modulo), ("power", .power), ("^", .power)]

def ofName (name : String) : Except CalculationError Operation :=
  match Entries.get? spellings name with
  | some operation => .ok operation
  | none => .error (.unknownOperation name)

def title : Operation → String
  | .add => "Add"
  | .subtract => "Subtract"
  | .multiply => "Multiply"
  | .divide => "Divide"
  | .modulo => "Modulo"
  | .power => "Power"

/-- The result has the sign of `a` for `modulo`. Nothing is divided by zero. -/
def apply (operation : Operation) (a b : Float) : Except CalculationError Float :=
  match operation with
  | .add => .ok (a + b)
  | .subtract => .ok (a - b)
  | .multiply => .ok (a * b)
  | .divide => if Binary64.magnitude b = 0 then .error .divisionByZero else .ok (a / b)
  | .modulo =>
    if Binary64.magnitude b = 0 then .error .divisionByZero else .ok (Binary64.remainder a b)
  | .power => .ok (Float.pow a b)

end Operation

def calculatorDescriptor : Descriptor where
  type := "calculator"
  category := .processing
  label := "Calculator"
  description := "Performs arithmetic on two numbers"
  inputs := [.optional "a" "A" .number, .optional "b" "B" .number]
  outputs := [.optional "result" "Result" .number]
  config := [(Port.mandatory "operation" "Operation" .string).withDefault (.string "add")
      |>.withOptions ["add", "subtract", "multiply", "divide", "modulo", "power"],
    .optional "a" "A" .number, .optional "b" "B" .number]

def operand (inputs config : Json.Object) (port : PortId) : Except RunError Float :=
  match lookupOrConfig inputs config port with
  | none => .error (.missingInput port)
  | some value =>
    match value.toFloat? with
    | some number => .ok number
    | none => .error (CalculationError.notANumber port value).toRunError

def calculate (inputs config : Json.Object) : Except RunError Output := do
  let name := Json.Object.stringOr config "operation" "add"
  let operation ← (Operation.ofName name).mapError CalculationError.toRunError
  let a ← operand inputs config "a"
  let b ← operand inputs config "b"
  let result ← (operation.apply a b).mapError CalculationError.toRunError
  let text (number : Float) : String := Decimal.Layout.plain.render number
  return .ofFields [
    ("result", Json.ofFloat result),
    ("expression", .string (text a ++ " " ++ operation.title ++ " " ++ text b))]

def calculator {σ : Type} : Processor σ := .pure calculatorDescriptor calculate

end Flowline
