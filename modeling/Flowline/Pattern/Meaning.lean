import Flowline.Pattern.Expression
import Flowline.Pattern.Reader

/-!
The meaning of what is written under the flags that are in force. A change of flags lasts until the
group in which it stands ends. Without the Unicode flag a class may hold the first 128 characters
only, for a text is never taken apart below its characters.
-/

namespace Flowline.Pattern

open Text (CodePoints)

structure Flags where
  caseInsensitive : Bool := false
  multiLine : Bool := false
  dotMatchesNewLine : Bool := false
  swapGreed : Bool := false
  unicode : Bool := true
  crlf : Bool := false

namespace Flags

def change (flags : Flags) : Flag × Bool → Flags
  | (.caseInsensitive, value) => { flags with caseInsensitive := value }
  | (.multiLine, value) => { flags with multiLine := value }
  | (.dotMatchesNewLine, value) => { flags with dotMatchesNewLine := value }
  | (.swapGreed, value) => { flags with swapGreed := value }
  | (.unicode, value) => { flags with unicode := value }
  | (.crlf, value) => { flags with crlf := value }
  | (.verbose, _) => flags

def changeAll (flags : Flags) (changes : FlagChanges) : Flags := changes.foldl change flags

end Flags

def refuse {α : Type} (problem : Problem) (span : Span) : Except SyntaxFault α :=
  .error ⟨problem, span, none⟩

/-! Sets of characters. -/

def posixSet (name : String) : CodePoints :=
  .read <|
    if name = "alnum" then "30-39 41-5A 61-7A"
    else if name = "alpha" then "41-5A 61-7A"
    else if name = "ascii" then "0-7F"
    else if name = "blank" then "9 20"
    else if name = "cntrl" then "0-1F 7F"
    else if name = "digit" then "30-39"
    else if name = "graph" then "21-7E"
    else if name = "lower" then "61-7A"
    else if name = "print" then "20-7E"
    else if name = "punct" then "21-2F 3A-40 5B-60 7B-7E"
    else if name = "space" then "9-D 20"
    else if name = "upper" then "41-5A"
    else if name = "word" then "30-39 41-5A 5F 61-7A"
    else "30-39 41-46 61-66"

def shortSet (unicode : Bool) : ShortClass → CodePoints
  | .digit => if unicode then Text.Property.decimalDigit else posixSet "digit"
  | .space => if unicode then Text.Property.whiteSpace else posixSet "space"
  | .word => if unicode then Text.Property.word else posixSet "word"

def isWord (unicode : Bool) (c : Char) : Bool := (shortSet unicode .word).contains c

def foldCase (flags : Flags) (set : CodePoints) : CodePoints :=
  if !flags.caseInsensitive then set
  else if flags.unicode then set.foldClosure
  else set.asciiFoldClosure

/-- Closes a set under case, then negates it; without the Unicode flag the result has to stay among
the first 128 characters. -/
def foldAndNegate (flags : Flags) (negated : Bool) (span : Span) (set : CodePoints) :
    Except SyntaxFault CodePoints :=
  let folded := foldCase flags set
  let result := if negated then folded.negation else folded
  if flags.unicode || result.isAscii then .ok result else refuse .invalidEncoding span

def shortClassSet (flags : Flags) (kind : ShortClass) (negated : Bool) (span : Span) :
    Except SyntaxFault CodePoints :=
  let set := shortSet flags.unicode kind
  let result := if negated then set.complement else set
  if flags.unicode || result.isAscii then .ok result else refuse .invalidEncoding span

def propertySet (flags : Flags) (query : PropertyQuery) (negated : Bool) (span : Span) :
    Except SyntaxFault CodePoints :=
  if !flags.unicode then refuse .unicodeForbidden span
  else
    let found :=
      match query with
      | .named name => Text.Property.named name
      | .withValue property value => Text.Property.withValue property value
    match found with
    | .error error => refuse (.property error) span
    | .ok set => foldAndNegate flags negated span set

/-- Whether a literal is a byte that stands for no character by itself. -/
def isLoneByte (flags : Flags) (literal : Literal) : Bool :=
  !flags.unicode && literal.isByte && decide (0x7F < literal.char.toNat)

/-- The code of a literal in a class. -/
def literalCode (flags : Flags) (literal : Literal) : Except SyntaxFault Nat :=
  if isLoneByte flags literal then refuse .invalidEncoding literal.span
  else if flags.unicode || decide (literal.char.toNat < 0x80) then .ok literal.char.toNat
  else refuse .unicodeForbidden literal.span

mutual

def classSet (flags : Flags) : ClassSet → Except SyntaxFault CodePoints
  | .items items _ => itemSets flags items
  | .operation operator left right _ => do
    let left ← classSet flags left
    let right ← classSet flags right
    let left := foldCase flags left
    let right := foldCase flags right
    .ok <|
      match operator with
      | .intersection => left.inter right
      | .difference => left.difference right
      | .symmetricDifference => left.symmetricDifference right

def itemSets (flags : Flags) : List ClassItem → Except SyntaxFault CodePoints
  | [] => .ok .empty
  | item :: rest => do
    let set ← itemSet flags item
    let others ← itemSets flags rest
    .ok (set.union others)

def itemSet (flags : Flags) : ClassItem → Except SyntaxFault CodePoints
  | .literal literal => (literalCode flags literal).map CodePoints.single
  | .range first last => do
    let low ← literalCode flags first
    let high ← literalCode flags last
    .ok (.ofRanges [(low, high)])
  | .posix name negated span => foldAndNegate flags negated span (posixSet name)
  | .short kind negated span => shortClassSet flags kind negated span
  | .property query negated span => propertySet flags query negated span
  | .bracketed negated content span => do
    foldAndNegate flags negated span (← classSet flags content)

end

/-! Expressions. -/

def literalSet (flags : Flags) (literal : Literal) : Except SyntaxFault CodePoints :=
  if isLoneByte flags literal then refuse .invalidEncoding literal.span
  else .ok (foldCase flags (.single literal.char.toNat))

def dotSet (flags : Flags) (span : Span) : Except SyntaxFault CodePoints :=
  if !flags.unicode then refuse .invalidEncoding span
  else if flags.dotMatchesNewLine then .ok CodePoints.empty.complement
  else if flags.crlf then .ok (CodePoints.read "A D").complement
  else .ok (CodePoints.single 0xA).complement

def conditionOf (flags : Flags) : Assertion → Condition
  | .startLine =>
    if !flags.multiLine then .startText else if flags.crlf then .startLineCrlf else .startLine
  | .endLine =>
    if !flags.multiLine then .endText else if flags.crlf then .endLineCrlf else .endLine
  | .startText => .startText
  | .endText => .endText
  | .wordBoundary => .boundary
  | .notWordBoundary => .notBoundary
  | .wordStart => .wordStart
  | .wordEnd => .wordEnd
  | .wordStartHalf => .wordStartHalf
  | .wordEndHalf => .wordEndHalf

mutual

/-- The meaning of a node, and the flags that are in force behind it. -/
def interpret (flags : Flags) : Node → Except SyntaxFault (Expression × Flags)
  | .flags changes _ => .ok (.empty, flags.changeAll changes)
  | .literal literal => (literalSet flags literal).map fun set => (.ofSet set, flags)
  | .dot span => (dotSet flags span).map fun set => (.ofSet set, flags)
  | .assertion kind _ => .ok (.condition (conditionOf flags kind) flags.unicode, flags)
  | .short kind negated span =>
    (shortClassSet flags kind negated span).map fun set => (.ofSet set, flags)
  | .property query negated span =>
    (propertySet flags query negated span).map fun set => (.ofSet set, flags)
  | .bracketed negated content span => do
    let set ← foldAndNegate flags negated span (← classSet flags content)
    .ok (.ofSet set, flags)
  | .repetition min max greedy node _ => do
    let (expression, behind) ← interpret flags node
    .ok (.repeated min max (greedy != behind.swapGreed) expression, behind)
  | .capture index name node _ => do
    let (expression, _) ← interpret flags node
    .ok (.capture index name expression, flags)
  | .group changes node _ => do
    let (expression, _) ← interpret (flags.changeAll changes) node
    .ok (expression, flags)
  | .alternation nodes _ => do
    let (expressions, flags) ← interpretAll flags nodes
    .ok (.oneOf expressions, flags)
  | .concat nodes _ => do
    let (expressions, flags) ← interpretAll flags nodes
    .ok (.sequence expressions, flags)

def interpretAll (flags : Flags) : List Node → Except SyntaxFault (List Expression × Flags)
  | [] => .ok ([], flags)
  | node :: rest => do
    let (expression, flags) ← interpret flags node
    let (expressions, flags) ← interpretAll flags rest
    .ok (expression :: expressions, flags)

end

end Flowline.Pattern
