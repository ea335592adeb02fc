import Flowline.Lookup
import Flowline.Text.Slug

/-!
Nodes that bring in, put out, change and join texts.
-/

namespace Flowline

variable {σ : Type}

/-! Text input. -/

def textInputDescriptor : Descriptor where
  type := "text_input"
  category := .input
  label := "Text Input"
  description := "Provides text input to the workflow"
  inputs := [.optional "text" "Text" .string]
  outputs := [.optional "text" "Text" .string]
  config := [.optional "defaultText" "Default text" .string,
    .optional "placeholder" "Placeholder" .string]

/-- The text that arrives, or else the configured one. -/
def provideText (inputs config : Json.Object) : Output :=
  let text :=
    match lookup inputs "text" with
    | some value => value.plainText
    | none => Json.Object.stringOr config "defaultText" ""
  .ofFields [("text", .string text), ("length", Json.ofNat text.length)]

def textInput : Processor σ :=
  .pure textInputDescriptor fun inputs config => .ok (provideText inputs config)

/-! Text output. -/

def textOutputDescriptor : Descriptor where
  type := "text_output"
  category := .output
  label := "Text Output"
  description := "Displays text output"
  inputs := [.optional "text" "Text" .string]
  outputs := [.optional "text" "Text" .string]
  config := [(Port.optional "format" "Format" .string).withDefault (.string "text")
    |>.withOptions ["text", "markdown"]]

/-- The text that arrives, or else all that arrives on the default port. -/
def displayText (inputs config : Json.Object) : Output :=
  let value := (lookup inputs "text").or (Entries.get? inputs defaultPort)
  .ofFields [
    ("text", .string ((value.map Json.plainText).getD "")),
    ("format", .string (Json.Object.stringOr config "format" "text"))]

def textOutput : Processor σ :=
  .pure textOutputDescriptor fun inputs config => .ok (displayText inputs config)

/-! Text transforms. -/

inductive Transform where
  | uppercase
  | lowercase
  | trim
  | reverse
  | capitalize
  | titleCase
  | slugify
deriving DecidableEq

namespace Transform

def spellings : List (String × Transform) := [
  ("uppercase", .uppercase), ("lowercase", .lowercase), ("trim", .trim), ("reverse", .reverse),
  ("capitalize", .capitalize), ("title_case", .titleCase), ("titlecase", .titleCase),
  ("slugify", .slugify)]

def ofName? (name : String) : Option Transform := Entries.get? spellings name

/-- Lowers every word and raises its first letter; words are parted by single spaces. -/
def titleCased (text : String) : String :=
  " ".intercalate ((text.splitOn " ").map fun word => Text.capitalize (Text.lowercase word))

def apply : Transform → String → String
  | .uppercase, text => Text.uppercase text
  | .lowercase, text => Text.lowercase text
  | .trim, text => Text.trim text
  | .reverse, text => String.ofList text.toList.reverse
  | .capitalize, text => Text.capitalize text
  | .titleCase, text => titleCased text
  | .slugify, text => Text.slug text

end Transform

def textTransformDescriptor : Descriptor where
  type := "text_transform"
  category := .processing
  label := "Text Transform"
  description := "Transforms text (case, trimming, slugs)"
  inputs := [.mandatory "text" "Text" .string]
  outputs := [.optional "text" "Text" .string]
  config := [(Port.mandatory "operation" "Operation" .string).withDefault (.string "uppercase")
    |>.withOptions
      ["uppercase", "lowercase", "trim", "reverse", "capitalize", "title_case", "slugify"]]

def transformText (inputs config : Json.Object) : Except RunError Output :=
  let text := lookupText inputs "text"
  let operation := Json.Object.stringOr config "operation" "uppercase"
  match Transform.ofName? operation with
  | none => .error (.failed ("Unknown text transform '" ++ operation ++ "'"))
  | some transform =>
    .ok (.ofFields [
      ("text", .string (transform.apply text)),
      ("original", .string text),
      ("operation", .string operation)])

def textTransform : Processor σ :=
  .pure textTransformDescriptor transformText textTransformDescriptor.inputsFound

/-! Joining texts. -/

def concatTextsDescriptor : Descriptor where
  type := "concat_texts"
  category := .processing
  label := "Concat Texts"
  description := "Concatenates texts with a separator"
  inputs := [.optional "text1" "First" .string, .optional "text2" "Second" .string,
    .optional "texts" "More texts" .array]
  outputs := [.optional "text" "Text" .string]
  config := [(Port.optional "separator" "Separator" .string).withDefault (.string ""),
    .optional "text1" "First" .string, .optional "text2" "Second" .string]

/-- A list stands for its items, anything else for itself. -/
def listedValues : Json → List Json
  | .array items => items
  | other => [other]

/-- Joins what is found; what is missing leaves no gap. -/
def concatenateTexts (inputs config : Json.Object) : Output :=
  let found (port : PortId) : Option Json := lookupOrConfig inputs config port
  let more := ((found "texts").map listedValues).getD []
  let parts := (["text1", "text2"].filterMap found ++ more).map Json.plainText
  .ofFields [
    ("text", .string ((Json.Object.stringOr config "separator" "").intercalate parts)),
    ("parts", Json.ofNat parts.length)]

def concatTexts : Processor σ :=
  .pure concatTextsDescriptor fun inputs config => .ok (concatenateTexts inputs config)

end Flowline
