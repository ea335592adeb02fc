import Flowline.Pattern.Class
import Flowline.Text.Alphanumeric

/-!
Reading patterns. Groups nest at most 250 deep, classes and operators included; capturing groups are
numbered by their opening parentheses, and no two of them have the same name.
-/

namespace Flowline.Pattern

open ScanM

/-! Groups and flags. -/

def isNameChar (first : Bool) (c : Char) : Bool :=
  if first then c == '_' || Text.isAlphabetic c
  else c == '_' || c == '.' || c == '[' || c == ']' || Text.isAlphanumeric c

/-- The characters of a group name up to `>`; `read` precedes them. -/
def nameChars : Nat → List Char → ScanM (List Char)
  | 0, read => return read
  | fuel + 1, read => do
    match ← current? with
    | none => return read
    | some c =>
      if c = '>' then return read
      else if isNameChar read.isEmpty c then
        let _ ← advance
        nameChars fuel (read ++ [c])
      else fault .groupNameInvalid (← charSpan)

/-- Takes up a name that no earlier group has. -/
def declareName (name : String) (span : Span) : ScanM Unit := do
  match (← get).names.find? fun entry => entry.1 == name with
  | some (_, earlier) => fault .groupNameRepeated span (some earlier)
  | none => modify fun scanner => { scanner with names := scanner.names ++ [(name, span)] }

def groupName : ScanM String := do
  let start ← place
  let name ← nameChars (← remaining) []
  if ← atEnd then fault .groupNameUnfinished (← here)
  else
    let span ← spanFrom start
    let _ ← advance
    if name.isEmpty then fault .groupNameEmpty (.point start)
    else
      let name := String.ofList name
      declareName name span
      return name

/-- A flag, or the hyphen behind which flags are switched off. -/
abbrev FlagItem := Option Flag × Span

def addFlag (items : List FlagItem) (item : FlagItem) : ScanM (List FlagItem) := do
  match items.find? fun earlier => earlier.1 == item.1 with
  | none => return items ++ [item]
  | some (_, earlier) =>
    let problem : Problem := if item.1.isNone then .flagRepeatedNegation else .flagRepeated
    fault problem item.2 (some earlier)

/-- The flags of a group up to its colon or closing parenthesis. -/
def flagItems : Nat → List FlagItem → ScanM (List FlagItem)
  | 0, items => return items
  | fuel + 1, items => do
    match ← current? with
    | none => return items
    | some c =>
      if c = ':' ∨ c = ')' then
        match items.getLast? with
        | some (none, span) => fault .flagDanglingNegation span
        | _ => return items
      else
        let span ← charSpan
        let flag : Option Flag ←
          if c = '-' then pure none
          else
            match Flag.ofChar? c with
            | some flag => pure (some flag)
            | none => fault .flagUnknown span
        let items ← addFlag items (flag, span)
        if ← advance then flagItems fuel items
        else fault .flagUnfinished (← here)

/-- Flags before the hyphen are switched on, those behind it off. -/
def flagChanges (items : List FlagItem) : FlagChanges :=
  let on := items.takeWhile fun item => item.1.isSome
  let off := items.dropWhile fun item => item.1.isSome
  (on.filterMap Prod.fst).map (·, true) ++ (off.filterMap Prod.fst).map (·, false)

def verboseChange? (changes : FlagChanges) : Option Bool :=
  (changes.find? fun change => change.1 == Flag.verbose).map Prod.snd

inductive GroupOpening where
  | flags (changes : FlagChanges) (span : Span)
  | group (changes : FlagChanges)
  | capture (index : Nat) (name : Option String)

def nextGroup : ScanM Nat := do
  modify fun scanner => { scanner with groups := scanner.groups + 1 }
  return (← get).groups

def lookAroundMarks : List (List Char) :=
  [['?', '='], ['?', '!'], ['?', '<', '='], ['?', '<', '!']]

/-- What stands behind the opening parenthesis of a group. -/
def groupOpening (opened : Span) : ScanM GroupOpening := do
  let _ ← advance
  skipSpace
  let rest := (← get).rest
  match lookAroundMarks.find? fun mark => mark.isPrefixOf rest with
  | some mark =>
    modify (Scanner.advanceBy mark.length)
    fault .lookAround (← spanFrom opened.start)
  | none =>
    let inner ← here
    let isNamed ← do
      if ← accept ['?', 'P', '<'] then pure true else accept ['?', '<']
    if isNamed then
      let index ← nextGroup
      if ← atEnd then fault .groupNameUnfinished (← here)
      else return .capture index (some (← groupName))
    else if ← accept ['?'] then
      if ← atEnd then fault .groupUnclosed opened
      else
        let items ← flagItems (← remaining) []
        let closing ← current?
        let _ ← advance
        if closing == some ')' then
          if items.isEmpty then fault .repetitionMissing inner
          else return .flags (flagChanges items) (← spanFrom opened.start)
        else return .group (flagChanges items)
    else return .capture (← nextGroup) none

/-! Repetitions. -/

/-- Takes the item to be repeated off those read, the last one first. -/
def repeated (read : List Node) : ScanM (Node × List Node) := do
  match read with
  | [] | .flags _ _ :: _ => fault .repetitionMissing (← here)
  | node :: before => return (node, before)

/-- Whether a repetition takes as much as it can; a question mark behind it reverses that. -/
def greedyMark (more : Bool) : ScanM Bool := do
  if more && (← current?) == some '?' then
    let _ ← advance
    return false
  else return true

def shortRepetition (mark : Char) (read : List Node) : ScanM (List Node) := do
  let (node, before) ← repeated read
  let more ← advance
  let greedy ← greedyMark more
  let (min, max) : Nat × Option Nat :=
    if mark = '?' then (0, some 1) else if mark = '*' then (0, none) else (1, none)
  return .repetition min max greedy node (← spanFrom node.span.start) :: before

def decimalDigits : Nat → List Char → ScanM (List Char)
  | 0, read => return read
  | fuel + 1, read => do
    match ← current? with
    | none => return read
    | some c =>
      if c.isDigit then
        let _ ← advanceSpace
        decimalDigits fuel (read ++ [c])
      else return read

def skipBlanks : ScanM Unit := modify (Scanner.skipWhile Text.isBlank)

/-- Passes over blanks, and in verbose mode over comments behind them. -/
def skipBlanksAndSpace : Nat → ScanM Unit
  | 0 => return ()
  | fuel + 1 => do
    if ((← current?).map Text.isBlank).getD false then
      let _ ← advanceSpace
      skipBlanksAndSpace fuel

/-- A count below `2 ^ 32` with blanks around it, or the fault that it would be. -/
def count : ScanM (Except SyntaxFault Nat) := do
  skipBlanks
  let start ← place
  let digits ← decimalDigits (← remaining) []
  let span ← spanFrom start
  skipBlanksAndSpace (← remaining)
  let value := digits.foldl (fun value c => 10 * value + (c.toNat - 0x30)) 0
  if digits.isEmpty then return .error ⟨.countEmpty, span, none⟩
  else if value < UInt32.size then return .ok value
  else return .error ⟨.countInvalid, span, none⟩

def bounds (unclosed : ScanM Unit) : ScanM (Nat × Option Nat) := do
  let low ← count
  if ← atEnd then unclosed
  if (← current?) == some ',' then
    if !(← advanceSpace) then unclosed
    if (← current?) == some '\x7d' then
      let low ← low
      return (low, none)
    else
      let low ← low
      let high ← count
      let high ← high
      return (low, some high)
  else
    let low ← low
    return (low, some low)

def countedRepetition (read : List Node) : ScanM (List Node) := do
  let start ← place
  let (node, before) ← repeated read
  let unclosed : ScanM Unit := do fault .countUnclosed (← spanFrom start)
  if !(← advanceSpace) then unclosed
  let (min, max) ← bounds unclosed
  if (← current?) != some '\x7d' then unclosed
  let more ← advanceSpace
  let greedy ← greedyMark more
  if max.any fun max => decide (max < min) then fault .countOrder (← spanFrom start)
  else return .repetition min max greedy node (← spanFrom node.span.start) :: before

/-! Sequences and alternatives. -/

def primitive (c : Char) : ScanM Node := do
  if c = '\\' then escape
  else
    let span ← charSpan
    let _ ← advance
    if c = '.' then return .dot span
    else if c = '^' then return .assertion .startLine span
    else if c = '$' then return .assertion .endLine span
    else return .literal ⟨c, false, span⟩

mutual

/-- The items up to a bar, a closing parenthesis or the end; `read` precedes them, the last one
first. -/
def sequence : Nat → List Node → ScanM (List Node)
  | 0, read => return read.reverse
  | fuel + 1, read => do
    skipSpace
    match ← current? with
    | none => return read.reverse
    | some c =>
      if c = '|' ∨ c = ')' then return read.reverse
      else if c = '(' then
        let node ← group fuel
        sequence fuel (node :: read)
      else if c = '[' then
        let (negated, content, span) ← bracketed (2 * (← remaining) + 2)
        sequence fuel (.bracketed negated content span :: read)
      else if c = '?' ∨ c = '*' ∨ c = '+' then
        let read ← shortRepetition c read
        sequence fuel read
      else if c = '\x7b' then
        let read ← countedRepetition read
        sequence fuel read
      else
        let node ← primitive c
        sequence fuel (node :: read)

/-- Alternatives up to a closing parenthesis or the end; `read` precedes them. -/
def alternatives : Nat → Place → List Node → ScanM Node
  | 0, start, read => return .alternation read (.point start)
  | fuel + 1, start, read => do
    let first ← place
    let nodes ← sequence fuel []
    let node := Node.ofItems (← spanFrom first) nodes
    if (← current?) == some '|' then
      let _ ← advance
      alternatives fuel start (read ++ [node])
    else if read.isEmpty then return node
    else return .alternation (read ++ [node]) (← spanFrom start)

def group : Nat → ScanM Node
  | 0 => do fault .groupUnclosed (← here)
  | fuel + 1 => do
    let opened ← charSpan
    let verbose := (← get).verbose
    match ← groupOpening opened with
    | .flags changes span =>
      modify fun scanner => { scanner with verbose := (verboseChange? changes).getD verbose }
      return .flags changes span
    | .group changes =>
      modify fun scanner => { scanner with verbose := (verboseChange? changes).getD verbose }
      let (node, span) ← groupBody fuel opened verbose
      return .group changes node span
    | .capture index name =>
      let (node, span) ← groupBody fuel opened verbose
      return .capture index name node span

/-- What stands in a group, up to its closing parenthesis. -/
def groupBody : Nat → Span → Bool → ScanM (Node × Span)
  | 0, opened, _ => fault .groupUnclosed opened
  | fuel + 1, opened, verbose => do
    let node ← alternatives fuel (← place) []
    if ← atEnd then fault .groupUnclosed opened
    else
      modify fun scanner => { scanner with verbose }
      let _ ← advance
      return (node, ← spanFrom opened.start)

end

def nestingLimit : Nat := 250

def wholePattern (fuel : Nat) : ScanM Node := do
  let node ← alternatives fuel (← place) []
  if ← atEnd then
    match node.tooDeep nestingLimit 0 with
    | some span => fault (.nestedTooDeep nestingLimit) span
    | none => return node
  else fault .groupUnopened (← charSpan)

def Node.read (text : String) : Except SyntaxFault Node :=
  let chars := text.toList
  (wholePattern (4 * chars.length + 8)).run { rest := chars } |>.map Prod.fst

end Flowline.Pattern
