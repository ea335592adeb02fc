import Flowline.Json.Decoder
import Flowline.Operator

/-!
The node with any number of named branches. Each branch compares the input with a value of its own;
the first branch that holds is taken, or all of them, and if none holds the default branch.
-/

namespace Flowline

open Json.Decoder (string bool json choice option list)

structure BranchCondition where
  name : String
  operator : String := "equals"
  value : Json := .null
deriving DecidableEq

def BranchCondition.decoder : Json.Decoder BranchCondition :=
  Json.Record.make BranchCondition.mk
    |>.field "name" string .required
    |>.field "operator" string (.default "equals")
    |>.field "value" json (.default .null)
    |>.decoder "BranchCondition"

inductive MatchMode where
  | first
  | all
deriving DecidableEq

def MatchMode.decoder : Json.Decoder MatchMode := choice [("first", .first), ("all", .all)]

structure GatewayConfig where
  branches : List BranchCondition := []
  mode : MatchMode := .first
  defaultBranch : Option String := none
  caseSensitive : Bool := false
deriving DecidableEq

def GatewayConfig.decoder : Json.Decoder GatewayConfig :=
  Json.Record.make GatewayConfig.mk
    |>.field "branches" (list BranchCondition.decoder) (.default [])
    |>.field "matchMode" MatchMode.decoder (.default .first)
    |>.field "defaultBranch" (option string) (.default none)
    |>.field "caseSensitive" bool (.default false)
    |>.decoder "GatewayConfig"

namespace BranchCondition

def holds (branch : BranchCondition) (value : Json) (caseSensitive : Bool) :
    Except OperatorError Bool := do
  let operator ← Operator.ofName branch.operator
  operator.evaluate value branch.value caseSensitive

end BranchCondition

/-- The names of the branches that hold, in order; in the mode `first` none is looked at behind the
first one that holds. -/
def matchedBranches (mode : MatchMode) (caseSensitive : Bool) (value : Json) :
    List BranchCondition → Except OperatorError (List String)
  | [] => .ok []
  | branch :: rest => do
    if ← branch.holds value caseSensitive then
      match mode with
      | .first => return [branch.name]
      | .all => return branch.name :: (← matchedBranches mode caseSensitive value rest)
    else matchedBranches mode caseSensitive value rest

/-- The branches taken: those that matched, else the default one, else none. -/
def gatewaySignal (matched : List String) (defaultBranch : Option String) : Signal :=
  match matched, defaultBranch with
  | name :: rest, _ => .branches (name :: rest)
  | [], some name => .branch name
  | [], none => .noBranch

def gatewayOutput (matched : List String) (defaultBranch : Option String) (value : Json) :
    Output :=
  (Output.ofFields [
    ("matched_branches", Json.strings matched),
    ("usedDefault", .bool (matched.isEmpty && defaultBranch.isSome)),
    ("value", value)]).withSignal (gatewaySignal matched defaultBranch)

def gatewayDescriptor : Descriptor where
  type := "gateway"
  category := .control
  label := "Gateway"
  description := "Routes execution to the branches whose condition matches"
  inputs := [.optional "value" "Value" .any]
  outputs := [.optional "matched_branches" "Matched branches" .array]
  config := [.mandatory "branches" "Branches" .array,
    (Port.optional "matchMode" "Match mode" .string).withDefault (.string "first")
      |>.withOptions ["first", "all"],
    .optional "defaultBranch" "Default branch" .string,
    (Port.optional "caseSensitive" "Case sensitive" .boolean).withDefault (.bool false)]

def invalidGatewayText (error : Json.ReadError) : String :=
  "Invalid gateway config: " ++ (RunError.unreadable error).message

def route (inputs config : Json.Object) : Except RunError Output := do
  let config ← (GatewayConfig.decoder.fromJson (.object config)).mapError fun error =>
    RunError.failed (invalidGatewayText error)
  let value := Json.ofOption (lookup inputs "value")
  let matched ← (matchedBranches config.mode config.caseSensitive value config.branches).mapError
    OperatorError.toRunError
  return gatewayOutput matched config.defaultBranch value

def gateway {σ : Type} : Processor σ := .pure gatewayDescriptor route

end Flowline
