import Flowline.Pattern.Scanner
import Flowline.Text.CodePoints

/-!
Escapes: characters by name or number, short classes, properties and assertions. Each is read from
its backslash on.
-/

namespace Flowline.Pattern

open ScanM

/-- Reads on to a closing brace and returns what precedes it, blanks left aside; `check` looks at
every character. The text may end before the brace. -/
def toBrace (check : Char → ScanM Unit) : Nat → List Char → ScanM (List Char)
  | 0, read => return read
  | fuel + 1, read => do
    if ← advanceSpace then
      match ← current? with
      | none => return read
      | some c =>
        if c = '\x7d' then return read
        else
          check c
          toBrace check fuel (read ++ [c])
    else return read

def remaining : ScanM Nat := return (← get).rest.length

/-! Characters by number. -/

def hexNumber (digits : List Char) : Nat :=
  digits.foldl (fun value c => 16 * value + (Text.hexValue? c).getD 0) 0

/-- The character with a number, unless it is too large or a surrogate. -/
def scalar (value : Nat) (span : Span) : ScanM Char :=
  if value < 0xD800 ∨ (0xDFFF < value ∧ value < 0x110000) then return Char.ofNat value
  else fault .hexNoScalar span

def checkHexDigit (c : Char) : ScanM Unit := do
  if (Text.hexValue? c).isNone then fault .hexDigit (← charSpan)

def fixedDigits : Nat → List Char → ScanM (List Char)
  | 0, read => do
    let c := (← current?).getD ' '
    checkHexDigit c
    let _ ← advanceSpace
    return read ++ [c]
  | count + 1, read => do
    let c := (← current?).getD ' '
    checkHexDigit c
    if ← advanceSpace then fixedDigits count (read ++ [c])
    else fault .escapeUnfinished (← here)

def bracedHex : ScanM Char := do
  let brace ← place
  let start := (← charSpan).stop
  let digits ← toBrace checkHexDigit (← remaining) []
  if ← atEnd then fault .escapeUnfinished (← spanFrom brace)
  else
    let stop ← place
    let _ ← advanceSpace
    if digits.isEmpty then fault .hexEmpty (← spanFrom brace)
    else scalar (hexNumber digits) ⟨start, stop⟩

/-- A number after `x`, `u` or `U`, which ask for two, four or eight digits. -/
def hexEscape (start : Place) (mark : Char) : ScanM Node := do
  if ← advanceSpace then
    if (← current?) == some '\x7b' then
      let c ← bracedHex
      return .literal ⟨c, false, ← spanFrom start⟩
    else
      let first ← place
      let count := if mark = 'x' then 1 else if mark = 'u' then 3 else 7
      let digits ← fixedDigits count []
      let c ← scalar (hexNumber digits) (← spanFrom first)
      return .literal ⟨c, mark = 'x', ← spanFrom start⟩
  else fault .escapeUnfinished (← here)

/-! Properties. -/

def splitAt? (mark : List Char) : List Char → Option (List Char × List Char)
  | [] => none
  | c :: rest =>
    match mark.isPrefixOf? (c :: rest) with
    | some behind => some ([], behind)
    | none => (splitAt? mark rest).map fun parts => (c :: parts.1, parts.2)

/-- The query, and whether it asks for all other characters. -/
def propertyQuery (name : List Char) : PropertyQuery × Bool :=
  match splitAt? ['!', '='] name with
  | some (property, value) => (.withValue (String.ofList property) (String.ofList value), true)
  | none =>
    match (splitAt? [':'] name).or (splitAt? ['='] name) with
    | some (property, value) => (.withValue (String.ofList property) (String.ofList value), false)
    | none => (.named (String.ofList name), false)

def propertyEscape (start : Place) (negated : Bool) : ScanM Node := do
  if ← advanceSpace then
    match ← current? with
    | some '\x7b' =>
      let name ← toBrace (fun _ => return ()) (← remaining) []
      if ← atEnd then fault .escapeUnfinished (← here)
      else
        let _ ← advance
        let (query, unequal) := propertyQuery name
        return .property query (negated != unequal) (← spanFrom start)
    | some '\\' => fault .propertyInvalid (← charSpan)
    | c =>
      let _ ← advanceSpace
      return .property (.named ((c.map Char.toString).getD "")) negated (← spanFrom start)
  else fault .escapeUnfinished (← here)

/-! Assertions. -/

def isBoundaryChar (c : Char) : Bool := c.isAlpha || c == '-'

def boundaryName : Nat → List Char → ScanM (List Char)
  | 0, read => return read
  | fuel + 1, read => do
    match ← current? with
    | none => return read
    | some c =>
      if isBoundaryChar c then
        let _ ← advanceSpace
        boundaryName fuel (read ++ [c])
      else return read

def namedBoundary? (name : String) : Option Assertion :=
  if name = "start" then some .wordStart
  else if name = "end" then some .wordEnd
  else if name = "start-half" then some .wordStartHalf
  else if name = "end-half" then some .wordEndHalf
  else none

/-- The kind of boundary named in braces; what starts with anything but a letter or a hyphen is a
repetition count and is left to be read as one. -/
def specialBoundary (start : Place) : ScanM Assertion := do
  let before ← get
  let brace ← place
  if ← advanceSpace then
    if ((← current?).map isBoundaryChar).getD false then
      let first ← place
      let name ← boundaryName (← remaining) []
      if (← current?) == some '\x7d' then
        let stop ← place
        let _ ← advance
        match namedBoundary? (String.ofList name) with
        | some kind => return kind
        | none => fault .boundaryUnknown ⟨first, stop⟩
      else fault .boundaryUnclosed (← spanFrom brace)
    else
      set before
      return .wordBoundary
  else fault .boundaryUnfinished (← spanFrom start)

def assertion? (c : Char) : Option Assertion :=
  if c = 'A' then some .startText
  else if c = 'z' then some .endText
  else if c = 'B' then some .notWordBoundary
  else if c = '<' then some .wordStart
  else if c = '>' then some .wordEnd
  else none

/-! All escapes. -/

def shortClass? (c : Char) : Option (ShortClass × Bool) :=
  if c = 'd' then some (.digit, false)
  else if c = 's' then some (.space, false)
  else if c = 'w' then some (.word, false)
  else if c = 'D' then some (.digit, true)
  else if c = 'S' then some (.space, true)
  else if c = 'W' then some (.word, true)
  else none

/-- Characters with a letter for a name, and those that stand for themselves. -/
def escapedChar? (c : Char) : Option Char :=
  if c = 'a' then some '\x07'
  else if c = 'f' then some '\x0c'
  else if c = 't' then some '\t'
  else if c = 'n' then some '\n'
  else if c = 'r' then some '\x0d'
  else if c = 'v' then some '\x0b'
  else if c.toNat < 0x80 && !c.isAlphanum && c != '<' && c != '>' then some c
  else none

def escape : ScanM Node := do
  let start ← place
  let _ ← advance
  match ← current? with
  | none => fault .escapeUnfinished (← spanFrom start)
  | some c =>
    if c.isDigit then fault .backreference ⟨start, (← charSpan).stop⟩
    else if c = 'x' ∨ c = 'u' ∨ c = 'U' then hexEscape start c
    else if c = 'p' ∨ c = 'P' then propertyEscape start (c == 'P')
    else
      let _ ← advance
      let span ← spanFrom start
      match shortClass? c, escapedChar? c, assertion? c with
      | some (kind, negated), _, _ => return .short kind negated span
      | none, some char, _ => return .literal ⟨char, false, span⟩
      | none, none, some kind => return .assertion kind span
      | none, none, none =>
        if c = 'b' then
          if (← current?) == some '\x7b' then
            let kind ← specialBoundary start
            return .assertion kind (← spanFrom start)
          else return .assertion .wordBoundary span
        else fault .escapeUnknown span

end Flowline.Pattern
