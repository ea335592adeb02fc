import Flowline.Pattern.PatternError

/-!
Patterns as they are written, with the places that later errors refer to.
-/

namespace Flowline.Pattern

inductive Flag where
  | caseInsensitive
  | multiLine
  | dotMatchesNewLine
  | swapGreed
  | unicode
  | crlf
  | verbose
deriving DecidableEq

namespace Flag

def ofChar? (c : Char) : Option Flag :=
  if c = 'i' then some caseInsensitive
  else if c = 'm' then some multiLine
  else if c = 's' then some dotMatchesNewLine
  else if c = 'U' then some swapGreed
  else if c = 'u' then some unicode
  else if c = 'R' then some crlf
  else if c = 'x' then some verbose
  else none

end Flag

abbrev FlagChanges := List (Flag × Bool)

inductive Assertion where
  | startLine
  | endLine
  | startText
  | endText
  | wordBoundary
  | notWordBoundary
  | wordStart
  | wordEnd
  | wordStartHalf
  | wordEndHalf
deriving DecidableEq

inductive ShortClass where
  | digit
  | space
  | word
deriving DecidableEq

inductive PropertyQuery where
  | named (name : String)
  | withValue (property value : String)
deriving DecidableEq

/-- A character; `isByte` if it is written as a byte of two hexadecimal digits. -/
structure Literal where
  char : Char
  isByte : Bool
  span : Span
deriving DecidableEq

inductive ClassOperator where
  | intersection
  | difference
  | symmetricDifference
deriving DecidableEq

mutual

inductive ClassItem where
  | literal (literal : Literal)
  | range (first last : Literal)
  | posix (name : String) (negated : Bool) (span : Span)
  | short (kind : ShortClass) (negated : Bool) (span : Span)
  | property (query : PropertyQuery) (negated : Bool) (span : Span)
  | bracketed (negated : Bool) (content : ClassSet) (span : Span)

/-- The items of a class, or two sets joined by an operator. -/
inductive ClassSet where
  | items (items : List ClassItem) (span : Span)
  | operation (operator : ClassOperator) (left right : ClassSet) (span : Span)

end

namespace ClassSet

def span : ClassSet → Span
  | .items _ span => span
  | .operation _ _ _ span => span

end ClassSet

inductive Node where
  | flags (changes : FlagChanges) (span : Span)
  | literal (literal : Literal)
  | dot (span : Span)
  | assertion (kind : Assertion) (span : Span)
  | short (kind : ShortClass) (negated : Bool) (span : Span)
  | property (query : PropertyQuery) (negated : Bool) (span : Span)
  | bracketed (negated : Bool) (content : ClassSet) (span : Span)
  | repetition (min : Nat) (max : Option Nat) (greedy : Bool) (node : Node) (span : Span)
  | capture (index : Nat) (name : Option String) (node : Node) (span : Span)
  | group (changes : FlagChanges) (node : Node) (span : Span)
  | alternation (nodes : List Node) (span : Span)
  | concat (nodes : List Node) (span : Span)

namespace Node

def span : Node → Span
  | .flags _ span | .dot span | .assertion _ span | .short _ _ span | .property _ _ span
  | .bracketed _ _ span | .repetition _ _ _ _ span | .capture _ _ _ span | .group _ _ span
  | .alternation _ span | .concat _ span => span
  | .literal one => one.span

/-- A sequence of one is that one. -/
def ofItems (span : Span) : List Node → Node
  | [node] => node
  | nodes => .concat nodes span

/-! The first place at which groups, classes and operators are nested too deep. -/

def firstOf (left right : Option Span) : Option Span := left.or right

mutual

def classTooDeep (limit depth : Nat) : ClassSet → Option Span
  | .items items span =>
    if items.length ≤ 1 then itemsTooDeep limit depth items
    else if limit ≤ depth then some span
    else itemsTooDeep limit (depth + 1) items
  | .operation _ left right span =>
    if limit ≤ depth then some span
    else firstOf (classTooDeep limit (depth + 1) left) (classTooDeep limit (depth + 1) right)

def itemsTooDeep (limit depth : Nat) : List ClassItem → Option Span
  | [] => none
  | item :: rest => firstOf (itemTooDeep limit depth item) (itemsTooDeep limit depth rest)

def itemTooDeep (limit depth : Nat) : ClassItem → Option Span
  | .bracketed _ content span =>
    if limit ≤ depth then some span else classTooDeep limit (depth + 1) content
  | _ => none

end

mutual

def tooDeep (limit depth : Nat) : Node → Option Span
  | .bracketed _ content span =>
    if limit ≤ depth then some span else classTooDeep limit (depth + 1) content
  | .repetition _ _ _ node span =>
    if limit ≤ depth then some span else tooDeep limit (depth + 1) node
  | .capture _ _ node span => if limit ≤ depth then some span else tooDeep limit (depth + 1) node
  | .group _ node span => if limit ≤ depth then some span else tooDeep limit (depth + 1) node
  | .alternation nodes span =>
    if limit ≤ depth then some span else someTooDeep limit (depth + 1) nodes
  | .concat nodes span =>
    if nodes.isEmpty then none
    else if limit ≤ depth then some span
    else someTooDeep limit (depth + 1) nodes
  | _ => none

def someTooDeep (limit depth : Nat) : List Node → Option Span
  | [] => none
  | node :: rest => firstOf (tooDeep limit depth node) (someTooDeep limit depth rest)

end

end Node

end Flowline.Pattern
