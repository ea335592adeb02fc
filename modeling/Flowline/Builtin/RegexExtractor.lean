import Flowline.Operator

/-!
The node that extracts what matches a pattern from a text: all matches or the first one, and the
groups of the first match.
-/

namespace Flowline

variable {σ : Type}

def regexExtractorDescriptor : Descriptor where
  type := "regex_extractor"
  category := .processing
  label := "Regex Extractor"
  description := "Extracts text matching a regular expression"
  inputs := [.mandatory "text" "Text" .string]
  outputs := [.optional "matches" "Matches" .array, .optional "match" "First match" .string,
    .optional "groups" "Groups" .json, .optional "count" "Count" .number]
  config := [.mandatory "pattern" "Pattern" .string, .optional "flags" "Flags" .string,
    (Port.optional "mode" "Mode" .string).withDefault (.string "all")
      |>.withOptions ["all", "first"]]

def extraction (pattern : Pattern) (text : String) (firstOnly : Bool) : Output :=
  let found := pattern.matchedTexts text
  let taken := if firstOnly then found.take 1 else found
  let groups := (pattern.groups text).map fun group =>
    (group.1, Json.ofOption (group.2.map .string))
  .ofFields [
    ("match", Json.ofOption (taken.head?.map .string)),
    ("count", Json.ofNat taken.length),
    ("matches", Json.strings taken),
    ("groups", Json.ofFields groups)]

def extractMatches (inputs config : Json.Object) : Except RunError Output :=
  match Json.Object.string? config "pattern" with
  | none => .error (.failed "regex_extractor requires a 'pattern'")
  | some source =>
    match Pattern.compile source (Json.Object.stringOr config "flags" "") with
    | .error error => .error (.failed (invalidPatternText source error))
    | .ok pattern =>
      let firstOnly := Json.Object.stringOr config "mode" "all" == "first"
      .ok (extraction pattern (lookupText inputs "text") firstOnly)

def regexExtractor : Processor σ :=
  .pure regexExtractorDescriptor extractMatches regexExtractorDescriptor.inputsFound

end Flowline
