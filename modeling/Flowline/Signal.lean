import Flowline.Json.Decoder
import Flowline.Workflow.Format

/-!
What a node puts out: data by port, and for gateways a signal that selects branches. An older way
of selecting branches is the data field `active_branches`; a signal can be read from it, and
attaching a signal to an output sets it.
-/

namespace Flowline

/-- Selects the trigger edges that leave a node through one of some branches, or none at all. -/
inductive Signal where
  | branches (names : List String)
  | noBranch
deriving DecidableEq

namespace Signal

def branch (name : String) : Signal := .branches [name]

def ofBool (value : Bool) : Signal := branch (if value then "true" else "false")

def names : Signal → List String
  | .branches names => names
  | .noBranch => []

def activates (signal : Signal) (branch : String) : Bool := signal.names.contains branch

def ofNames : List String → Signal
  | [] => .noBranch
  | name :: rest => .branches (name :: rest)

/-- Reads a branch name or a list that holds branch names; anything else but `null` is no
selection. -/
def ofActiveBranches? : Json → Option Signal
  | .string name => some (ofNames (if name.isEmpty then [] else [name]))
  | .array items => some (ofNames (items.filterMap Json.string?))
  | .null => some .noBranch
  | _ => none

/-- One branch is written by itself, and no branch as the empty text. -/
def toActiveBranches (signal : Signal) : Json :=
  match signal.names with
  | [] => .string ""
  | [name] => .string name
  | names => Json.strings names

def toJson : Signal → Json
  | .branches names =>
    Json.ofFields [("signal", .string "active_branches"), ("branches", Json.strings names)]
  | .noBranch => Json.ofFields [("signal", .string "no_branch")]

/-- The two signals by tag; the content of a tag, if any, is still to be read. -/
inductive Tag where
  | branches
  | noBranch

def Tag.decoder : Json.Decoder Tag :=
  Json.Decoder.choice [("active_branches", .branches), ("no_branch", .noBranch)]

def typeName : String := "adjacently tagged enum ControlSignal"

/-- The signal of a tag and the content that goes with it. -/
def ofContent : Tag → Json → Except Json.ReadError Signal
  | .branches, content =>
    (Json.Decoder.list Json.Decoder.string).fromJson content |>.map .branches
  | .noBranch, .null => .ok .noBranch
  | .noBranch, content =>
    .error (.invalidType (.ofJson content) "unit variant ControlSignal::NoBranch")

/-- A signal is an object with a tag and a content, or a list of the two. -/
def ofJson : Json → Except Json.ReadError Signal
  | .object fields =>
    match Entries.get? fields "signal", Entries.get? fields "branches" with
    | none, _ => .error (.missingField "signal")
    | some tag, some content => do ofContent (← Tag.decoder.fromJson tag) content
    | some tag, none => do
      match ← Tag.decoder.fromJson tag with
      | .branches => .error (.missingField "branches")
      | .noBranch => .ok .noBranch
  | .array [] => .error (.invalidLength 0 typeName)
  | .array [tag] => do
    let _ ← Tag.decoder.fromJson tag
    .error (.invalidLength 1 typeName)
  | .array (tag :: content :: rest) => do
    let signal ← ofContent (← Tag.decoder.fromJson tag) content
    if rest.isEmpty then .ok signal
    else .error (.invalidLength (rest.length + 2) "fewer elements in array")
  | other => .error (.invalidType (.ofJson other) typeName)

def decoder : Json.Decoder Signal := fun source => do
  let (json, rest) ← Json.Decoder.json source
  .ok (← ofJson json, rest)

end Signal

def activeBranchesField : String := "active_branches"

structure Output where
  data : Json.Object := []
  signal : Option Signal := none
deriving DecidableEq

namespace Output

def empty : Output := {}

def get? (output : Output) (key : String) : Option Json := Entries.get? output.data key

def withValue (output : Output) (key : String) (value : Json) : Output :=
  { output with data := Entries.insert output.data key value }

def withSignal (output : Output) (signal : Signal) : Output :=
  { output.withValue activeBranchesField signal.toActiveBranches with signal := some signal }

def ofFields (fields : List (String × Json)) : Output := { data := Entries.ofList fields }

def toValue (output : Output) : Json := .object output.data

/-- Reads a missing signal from the data field that names branches. -/
def liftSignal (output : Output) : Output :=
  match output.signal with
  | some _ => output
  | none =>
    { output with signal := (output.get? activeBranchesField).bind Signal.ofActiveBranches? }

def toJson (output : Output) : Json :=
  Json.ofFields <|
    [("data", output.toValue)] ++
    Json.optionalField "control" (output.signal.map Signal.toJson)

def decoder : Json.Decoder Output :=
  Json.Record.make Output.mk
    |>.field "data" Json.Decoder.object .required
    |>.field "control" (Json.Decoder.option Signal.decoder) (.default none)
    |>.decoder "NodeOutput"

end Output

end Flowline
