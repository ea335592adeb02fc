import Flowline.Entries

/-!
The command line. An option with a value is written `--name value`, `--name=value`, `-n value`,
`-n=value` or `-nvalue`; flags of one letter may share a dash; after `--` nothing is an option. An
option may be given once on either side of the verb, and what is given after the verb counts.
-/

namespace Flowline.Command

inductive Action where
  | run (workflow : String) (input pipeline : Option String) (failFast : Bool)
  | compile (workflow : String)
  | validate (workflow : String)
  | nodes (verbose : Bool)
deriving DecidableEq

structure Invocation where
  action : Action
  config : Option String
deriving DecidableEq

/-- Why arguments are not carried out; help and version are asked for. -/
inductive UsageError where
  | unknownArgument
  | unknownVerb
  | missingVerb
  | missingOperand
  | missingValue
  | unexpectedValue
  | repeatedOption
  | noArguments
  | help
  | version
deriving DecidableEq

inductive Verb where
  | run
  | compile
  | validate
  | nodes
  | help
deriving DecidableEq

def Verb.named? (name : String) : Option Verb :=
  match name with
  | "run" => some .run
  | "compile" => some .compile
  | "validate" => some .validate
  | "nodes" => some .nodes
  | "help" => some .help
  | _ => none

/-- A path may not be empty. -/
inductive OptionKind where
  | flag
  | text
  | path
  | help
  | version
deriving DecidableEq

structure OptionForm where
  name : String
  letter : Option Char
  kind : OptionKind
deriving DecidableEq

def OptionForm.takesValue (form : OptionForm) : Bool := form.kind = .text || form.kind = .path

/-- What may stand before the verb, or after it. -/
structure Level where
  options : List OptionForm
  takesVerb : Bool := false
  takesOperand : Bool := false

def configForm : OptionForm := ⟨"config", some 'c', .path⟩

def helpForm : OptionForm := ⟨"help", some 'h', .help⟩

def Level.outer : Level where
  options := [configForm, helpForm, ⟨"version", some 'V', .version⟩]
  takesVerb := true

def Verb.level (verb : Verb) : Level :=
  let shared := [configForm, helpForm]
  match verb with
  | .run =>
    { options := shared ++
        [⟨"input", some 'i', .text⟩, ⟨"pipeline", some 'p', .text⟩, ⟨"fail-fast", none, .flag⟩]
      takesOperand := true }
  | .compile | .validate => { options := shared, takesOperand := true }
  | .nodes => { options := shared ++ [⟨"verbose", some 'v', .flag⟩] }
  | .help => { options := [] }

/-- What has been read last and is not settled yet; an option may still wait for its value. -/
inductive Pending where
  | nothing
  | option (form : OptionForm) (value : Option String)
  | operand (path : String)

/-- The arguments of a level so far; `literal` holds after `--`. -/
structure Reading where
  options : Entries String := []
  operand : Option String := none
  pending : Pending := .nothing
  literal : Bool := false

namespace Reading

def has (reading : Reading) (option : String) : Bool := Entries.has reading.options option

def value? (reading : Reading) (option : String) : Option String :=
  Entries.get? reading.options option

def isWaiting (reading : Reading) : Bool :=
  match reading.pending with
  | .option _ none => true
  | _ => false

def hasOperand (reading : Reading) : Bool :=
  match reading.operand, reading.pending with
  | some _, _ | none, .operand _ => true
  | none, _ => false

def store (reading : Reading) (form : OptionForm) (value : String) : Except UsageError Reading :=
  if reading.has form.name then .error .repeatedOption
  else if form.kind = .path ∧ value = "" then .error .missingValue
  else .ok { reading with options := Entries.insert reading.options form.name value }

def settle (reading : Reading) : Except UsageError Reading :=
  let free := { reading with pending := .nothing }
  match reading.pending with
  | .nothing => .ok reading
  | .option _ none => .error .missingValue
  | .option form (some value) => free.store form value
  | .operand path =>
    if path = "" then .error .missingValue else .ok { free with operand := some path }

def takeFlag (reading : Reading) (form : OptionForm) : Except UsageError Reading := do
  let reading ← reading.settle
  match form.kind with
  | .help => .error .help
  | .version => .error .version
  | .flag => reading.store form ""
  | .text | .path => .ok { reading with pending := .option form none }

def takeOption (reading : Reading) (form : OptionForm) (value : String) :
    Except UsageError Reading := do
  (← reading.settle).store form value

end Reading

namespace Level

variable (level : Level)

/-- `--name` or `--name=value`, without the dashes. -/
def takeName (reading : Reading) (chars : List Char) : Except UsageError Reading :=
  let name := String.ofList (chars.takeWhile (· != '='))
  match level.options.find? (·.name == name), chars.dropWhile (· != '=') with
  | none, _ => .error .unknownArgument
  | some form, [] => reading.takeFlag form
  | some form, _ :: value =>
    if form.takesValue then reading.takeOption form (String.ofList value)
    else .error .unexpectedValue

/-- Letters that share a dash; the first one with a value takes the rest. -/
def takeLetters (reading : Reading) : List Char → Except UsageError Reading
  | [] => .ok reading
  | letter :: rest =>
    match level.options.find? (·.letter == some letter) with
    | none => .error .unknownArgument
    | some form =>
      if form.takesValue then
        match rest with
        | [] => reading.takeFlag form
        | '=' :: value => reading.takeOption form (String.ofList value)
        | value => reading.takeOption form (String.ofList value)
      else do takeLetters (← reading.takeFlag form) rest

/-- Takes an argument that is neither an option nor the value of one. -/
def takePlain (reading : Reading) (argument : String) : Except UsageError Reading := do
  if level.takesOperand && !reading.hasOperand then
    return { ← reading.settle with pending := .operand argument }
  else if level.takesVerb && (Verb.named? argument).isNone then .error .unknownVerb
  else .error .unknownArgument

def take (reading : Reading) (argument : String) : Except UsageError Reading :=
  if reading.literal then level.takePlain reading argument
  else
    match argument.toList, reading.pending with
    | ['-', '-'], _ => .ok { reading with literal := true }
    | '-' :: '-' :: name, _ => level.takeName reading name
    | '-' :: letter :: letters, _ => level.takeLetters reading (letter :: letters)
    | _, .option form none => .ok { reading with pending := .option form (some argument) }
    | _, _ => level.takePlain reading argument

/-- Reads up to the verb, or to the end, and returns the verb with the arguments after it. -/
def read (reading : Reading) :
    List String → Except UsageError (Reading × Option (Verb × List String))
  | [] => .ok (reading, none)
  | argument :: rest => do
    let verb :=
      if level.takesVerb && !reading.literal && !reading.isWaiting then Verb.named? argument
      else none
    match verb with
    | some verb => .ok (reading, some (verb, rest))
    | none => read (← level.take reading argument) rest

end Level

def Reading.requireOperand (reading : Reading) : Except UsageError String :=
  match reading.operand with
  | some path => .ok path
  | none => .error .missingOperand

def helpOn : List String → UsageError
  | [] => .help
  | [name] => if (Verb.named? name).isSome then .help else .unknownVerb
  | _ => .unknownVerb

def Verb.action (verb : Verb) (reading : Reading) : Except UsageError Action := do
  match verb with
  | .run =>
    return .run (← reading.requireOperand) (reading.value? "input") (reading.value? "pipeline")
      (reading.has "fail-fast")
  | .compile => return .compile (← reading.requireOperand)
  | .validate => return .validate (← reading.requireOperand)
  | .nodes => return .nodes (reading.has "verbose")
  | .help => .error .help

def Invocation.ofArguments (arguments : List String) : Except UsageError Invocation := do
  match ← Level.outer.read {} arguments with
  | (outer, none) =>
    let outer ← outer.settle
    if outer.options.isEmpty then .error .noArguments else .error .missingVerb
  | (_, some (.help, rest)) => .error (helpOn rest)
  | (outer, some (verb, rest)) =>
    let (inner, _) ← verb.level.read {} rest
    let inner ← inner.settle
    let action ← verb.action inner
    let outer ← outer.settle
    return { action, config := (inner.value? "config").or (outer.value? "config") }

end Flowline.Command
