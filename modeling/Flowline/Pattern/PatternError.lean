import Flowline.Text.PropertyName

/-!
Why a pattern is refused, and where. The message shows the pattern with carets under the places in
question; in a pattern of several lines the lines are numbered.
-/

namespace Flowline.Pattern

/-- A place in a pattern: characters before it, and line and column from one on. -/
structure Place where
  offset : Nat
  line : Nat
  column : Nat
deriving DecidableEq

namespace Place

def first : Place := ⟨0, 1, 1⟩

/-- The place behind `c`. -/
def after (place : Place) (c : Char) : Place :=
  if c = '\n' then ⟨place.offset + 1, place.line + 1, 1⟩
  else ⟨place.offset + 1, place.line, place.column + 1⟩

end Place

structure Span where
  start : Place
  stop : Place
deriving DecidableEq

namespace Span

def point (place : Place) : Span := ⟨place, place⟩

def isOneLine (span : Span) : Bool := span.start.line == span.stop.line

def startsBefore (left right : Span) : Bool :=
  if left.start.offset = right.start.offset then decide (left.stop.offset ≤ right.stop.offset)
  else decide (left.start.offset < right.start.offset)

end Span

inductive Problem where
  | classEscape
  | classRangeOrder
  | classRangeEnds
  | classUnclosed
  | countInvalid
  | hexEmpty
  | hexNoScalar
  | hexDigit
  | escapeUnfinished
  | escapeUnknown
  | flagDanglingNegation
  | flagRepeated
  | flagRepeatedNegation
  | flagUnfinished
  | flagUnknown
  | groupNameRepeated
  | groupNameEmpty
  | groupNameInvalid
  | groupNameUnfinished
  | groupUnclosed
  | groupUnopened
  | nestedTooDeep (limit : Nat)
  | countOrder
  | countEmpty
  | countUnclosed
  | repetitionMissing
  | boundaryUnclosed
  | boundaryUnknown
  | boundaryUnfinished
  | propertyInvalid
  | backreference
  | lookAround
  | unicodeForbidden
  | invalidEncoding
  | property (error : Text.PropertyError)
deriving DecidableEq

def Problem.message : Problem → String
  | .classEscape => "invalid escape sequence found in character class"
  | .classRangeOrder => "invalid character class range, the start must be <= the end"
  | .classRangeEnds => "invalid range boundary, must be a literal"
  | .classUnclosed => "unclosed character class"
  | .countInvalid => "decimal literal invalid"
  | .hexEmpty => "hexadecimal literal empty"
  | .hexNoScalar => "hexadecimal literal is not a Unicode scalar value"
  | .hexDigit => "invalid hexadecimal digit"
  | .escapeUnfinished => "incomplete escape sequence, reached end of pattern prematurely"
  | .escapeUnknown => "unrecognized escape sequence"
  | .flagDanglingNegation => "dangling flag negation operator"
  | .flagRepeated => "duplicate flag"
  | .flagRepeatedNegation => "flag negation operator repeated"
  | .flagUnfinished => "expected flag but got end of regex"
  | .flagUnknown => "unrecognized flag"
  | .groupNameRepeated => "duplicate capture group name"
  | .groupNameEmpty => "empty capture group name"
  | .groupNameInvalid => "invalid capture group character"
  | .groupNameUnfinished => "unclosed capture group name"
  | .groupUnclosed => "unclosed group"
  | .groupUnopened => "unopened group"
  | .nestedTooDeep limit =>
    "exceed the maximum number of nested parentheses/brackets (" ++ limit.repr ++ ")"
  | .countOrder => "invalid repetition count range, the start must be <= the end"
  | .countEmpty => "repetition quantifier expects a valid decimal"
  | .countUnclosed => "unclosed counted repetition"
  | .repetitionMissing => "repetition operator missing expression"
  | .boundaryUnclosed =>
    "special word boundary assertion is either unclosed or contains an invalid character"
  | .boundaryUnknown =>
    "unrecognized special word boundary assertion, valid choices are: start, end, start-half or "
      ++ "end-half"
  | .boundaryUnfinished =>
    "found either the beginning of a special word boundary or a bounded repetition on a \\b with "
      ++ "an opening brace, but no closing brace"
  | .propertyInvalid => "invalid Unicode character class"
  | .backreference => "backreferences are not supported"
  | .lookAround => "look-around, including look-ahead and look-behind, is not supported"
  | .unicodeForbidden => "Unicode not allowed here"
  | .invalidEncoding => "pattern can match invalid UTF-8"
  | .property .unknownProperty => "Unicode property not found"
  | .property .unknownValue => "Unicode property value not found"

/-- `other` is a second place to be shown, such as the first use of a name. -/
structure SyntaxFault where
  problem : Problem
  span : Span
  other : Option Span := none
deriving DecidableEq

namespace SyntaxFault

/-- Splits behind every line feed; the carriage return of a line end is dropped with it. -/
def linesFrom (line : List Char) : List Char → List (List Char)
  | [] => if line.isEmpty then [] else [line.reverse]
  | c :: rest =>
    if c = '\n' then
      (if line.head? = some '\x0d' then line.tail.reverse else line.reverse) :: linesFrom [] rest
    else linesFrom (c :: line) rest

def lines (text : List Char) : List (List Char) := linesFrom [] text

def blanks (count : Nat) : String := String.ofList (List.replicate count ' ')

/-- Carets under the spans, which ascend, from column `column` on. -/
def carets (column : Nat) : List Span → String
  | [] => ""
  | span :: rest =>
    let width := max 1 (span.stop.column - span.start.column)
    blanks (span.start.column - column) ++ String.ofList (List.replicate width '^') ++
      carets (max column span.start.column + width) rest

def spans (fault : SyntaxFault) : List Span :=
  match fault.other with
  | none => [fault.span]
  | some other =>
    if other.startsBefore fault.span then [other, fault.span] else [fault.span, other]

/-- The lines of the pattern, each with the carets that belong under it. -/
def notated (fault : SyntaxFault) (numberWidth : Nat) (pattern : List Char) : String :=
  let single := fault.spans.filter Span.isOneLine
  String.join <| (lines pattern).mapIdx fun index line =>
    let number := (index + 1).repr
    let head :=
      if numberWidth = 0 then blanks 4
      else blanks (numberWidth - number.length) ++ number ++ ": "
    let notes := single.filter fun span => span.start.line == index + 1
    head ++ String.ofList line ++ "\n" ++
      if notes.isEmpty then ""
      else blanks (if numberWidth = 0 then 4 else numberWidth + 2) ++ carets 1 notes ++ "\n"

def lineNote (span : Span) : String :=
  "on line " ++ span.start.line.repr ++ " (column " ++ span.start.column.repr ++
    ") through line " ++ span.stop.line.repr ++ " (column " ++ (span.stop.column - 1).repr ++ ")"

def message (fault : SyntaxFault) (text : String) : String :=
  let pattern := text.toList
  let count := (lines pattern).length + (if pattern.getLast? = some '\n' then 1 else 0)
  let numberWidth := if count ≤ 1 then 0 else count.repr.length
  let reason := "error: " ++ fault.problem.message
  if pattern.contains '\n' then
    let divider := String.ofList (List.replicate 79 '~') ++ "\n"
    let notes := (fault.spans.filter fun span => !span.isOneLine).map lineNote
    "regex parse error:\n" ++ divider ++ fault.notated numberWidth pattern ++ divider ++
      (if notes.isEmpty then "" else "\n".intercalate notes ++ "\n") ++ reason
  else "regex parse error:\n" ++ fault.notated numberWidth pattern ++ reason

end SyntaxFault

inductive PatternError where
  | malformed (fault : SyntaxFault)
  | tooLarge (limit : Nat)
deriving DecidableEq

def PatternError.message (text : String) : PatternError → String
  | .malformed fault => fault.message text
  | .tooLarge limit => "Compiled regex exceeds size limit of " ++ limit.repr ++ " bytes."

end Flowline.Pattern
