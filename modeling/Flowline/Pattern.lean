import Flowline.Pattern.Layout
import Flowline.Pattern.Search

/-!
Patterns: regular expressions without look-around and back references, matched in time linear in
the text. Flags may be given from outside, `i` for any case, `m` for line by line, `s` for a dot
that matches line feeds.
-/

namespace Flowline

/-- `names` lists the groups from the first one on; a group may go without a name. -/
structure Pattern where
  program : Pattern.Program
  names : List (Option String)

namespace Pattern

/-- The names of the groups up to the last one that occurs. -/
def groupNames (captures : List (Nat × Option String)) : List (Option String) :=
  let count := captures.foldl (fun count capture => max count capture.1) 0
  (List.range count).map fun index =>
    ((captures.find? fun capture => capture.1 == index + 1).map Prod.snd).getD none

def sizeLimit : Nat := 10 * 1024 * 1024

def flagsOf (flags : String) : Flags where
  caseInsensitive := flags.toList.contains 'i'
  multiLine := flags.toList.contains 'm'
  dotMatchesNewLine := flags.toList.contains 's'

def compile (text flags : String) : Except PatternError Pattern :=
  match (Node.read text).bind (interpret (flagsOf flags)) with
  | .error fault => .error (.malformed fault)
  | .ok (expression, _) =>
    if expression.fits sizeLimit then
      .ok ⟨.ofExpression expression, groupNames expression.captures⟩
    else .error (.tooLarge sizeLimit)

/-- Where a match begins and ends, and where its groups do. -/
abbrev Match := Slots

namespace Match

def group? (found : Match) (index : Nat) : Option (Nat × Nat) :=
  match found[2 * index]?, found[2 * index + 1]? with
  | some (some start), some (some stop) => some (start, stop)
  | _, _ => none

end Match

def slotCount (pattern : Pattern) : Nat := 2 * (pattern.names.length + 1)

/-- The leftmost match that begins at `position` or later, where `rest` is left of the text and
`before` precedes it. -/
def findFrom (pattern : Pattern) (position : Nat) (before : Option Char) (rest : List Char) :
    Option Match :=
  searchFrom pattern.program pattern.slotCount position before (.empty pattern.program) none rest

def find? (pattern : Pattern) (text : String) : Option Match :=
  pattern.findFrom 0 none text.toList

def isMatch (pattern : Pattern) (text : String) : Bool := (pattern.find? text).isSome

/-- A match in a text: where it begins, and what it covers. -/
structure Occurrence where
  start : Nat
  chars : List Char

/-- The matches from `position` on, one behind the other. A match is not taken if it is empty and
stands at the end of the one before it. -/
def findAllFrom (pattern : Pattern) :
    Nat → Nat → Option Char → Option Nat → List Char → List Occurrence
  | 0, _, _, _, _ => []
  | fuel + 1, position, before, lastEnd, rest =>
    match (pattern.findFrom position before rest).bind fun found => Match.group? found 0 with
    | none => []
    | some (start, stop) =>
      if start = stop && lastEnd == some stop then
        match rest with
        | [] => []
        | c :: rest => findAllFrom pattern fuel (position + 1) (some c) lastEnd rest
      else
        let passed := rest.take (stop - position)
        let before := passed.getLast?.or before
        ⟨start, passed.drop (start - position)⟩ ::
          findAllFrom pattern fuel stop before (some stop) (rest.drop (stop - position))

def findAll (pattern : Pattern) (text : String) : List Occurrence :=
  let chars := text.toList
  pattern.findAllFrom (2 * chars.length + 2) 0 none none chars

def matchedTexts (pattern : Pattern) (text : String) : List String :=
  (pattern.findAll text).map fun occurrence => String.ofList occurrence.chars

def excerpt (text : String) (place : Nat × Nat) : String :=
  String.ofList ((text.toList.drop place.1).take (place.2 - place.1))

/-- The groups of the first match with their texts, by name or else by number. -/
def groups (pattern : Pattern) (text : String) : List (String × Option String) :=
  match pattern.find? text with
  | none => []
  | some found =>
    pattern.names.mapIdx fun index name =>
      (name.getD (index + 1).repr, (found.group? (index + 1)).map (excerpt text))

end Pattern

end Flowline
