import Flowline.Pattern.Syntax
import Flowline.Text.Folding

/-!
Patterns without flags: characters, sets of characters, conditions on a place in the text, captures,
and how these are put together. Expressions are built in a form without needless parts: sequences
and choices do not stand directly in their like, characters in a row are one literal, a choice
between characters is a set, and what all branches of a choice begin with stands in front of it.
-/

namespace Flowline.Pattern

open Text (CodePoints)

/-- What is known of a place in a text: the characters on either side. -/
structure Surroundings where
  before : Option Char
  behind : Option Char

inductive Condition where
  | startText
  | endText
  | startLine
  | endLine
  | startLineCrlf
  | endLineCrlf
  | boundary
  | notBoundary
  | wordStart
  | wordEnd
  | wordStartHalf
  | wordEndHalf
deriving DecidableEq

namespace Condition

/-- Whether the condition holds, given which characters belong to words. -/
def holds (isWord : Char → Bool) (around : Surroundings) : Condition → Bool :=
  let wordBefore := around.before.any isWord
  let wordBehind := around.behind.any isWord
  fun condition =>
    match condition with
    | startText => around.before.isNone
    | endText => around.behind.isNone
    | startLine => around.before.isNone || around.before == some '\n'
    | endLine => around.behind.isNone || around.behind == some '\n'
    | startLineCrlf =>
      around.before.isNone || around.before == some '\n' ||
        (around.before == some '\x0d' && around.behind != some '\n')
    | endLineCrlf =>
      around.behind.isNone || around.behind == some '\x0d' ||
        (around.behind == some '\n' && around.before != some '\x0d')
    | boundary => wordBefore != wordBehind
    | notBoundary => wordBefore == wordBehind
    | wordStart => !wordBefore && wordBehind
    | wordEnd => wordBefore && !wordBehind
    | wordStartHalf => !wordBefore
    | wordEndHalf => !wordBehind

end Condition

inductive Expression where
  | empty
  | literal (chars : List Char)
  | set (set : CodePoints)
  | condition (condition : Condition) (unicode : Bool)
  | capture (index : Nat) (name : Option String) (expression : Expression)
  | repetition (min : Nat) (max : Option Nat) (greedy : Bool) (expression : Expression)
  | concat (expressions : List Expression)
  | alternation (expressions : List Expression)

namespace Expression

mutual

def same : Expression → Expression → Bool
  | .empty, .empty => true
  | .literal left, .literal right => left == right
  | .set left, .set right => left.ranges == right.ranges
  | .condition left leftUnicode, .condition right rightUnicode =>
    left == right && leftUnicode == rightUnicode
  | .capture left leftName leftExpression, .capture right rightName rightExpression =>
    left == right && leftName == rightName && same leftExpression rightExpression
  | .repetition leftMin leftMax leftGreedy left, .repetition rightMin rightMax rightGreedy right =>
    leftMin == rightMin && leftMax == rightMax && leftGreedy == rightGreedy && same left right
  | .concat left, .concat right => allSame left right
  | .alternation left, .alternation right => allSame left right
  | _, _ => false

def allSame : List Expression → List Expression → Bool
  | [], [] => true
  | left :: lefts, right :: rights => same left right && allSame lefts rights
  | _, _ => false

end

mutual

def matchesEmptyOnly : Expression → Bool
  | .empty => true
  | .literal chars => chars.isEmpty
  | .set _ => false
  | .condition _ _ => true
  | .capture _ _ expression => matchesEmptyOnly expression
  | .repetition _ max _ expression => max.isSome && matchesEmptyOnly expression
  | .concat expressions => allMatchEmptyOnly expressions
  | .alternation expressions => allMatchEmptyOnly expressions

def allMatchEmptyOnly : List Expression → Bool
  | [] => true
  | expression :: rest => matchesEmptyOnly expression && allMatchEmptyOnly rest

end

mutual

/-- A number of characters that each match has at least; none where a set without characters lets
nothing match. -/
def leastLength? : Expression → Option Nat
  | .empty => some 0
  | .literal chars => some chars.length
  | .set chars => if chars.isEmpty then none else some 1
  | .condition _ _ => some 0
  | .capture _ _ expression => leastLength? expression
  | .repetition min _ _ expression => (leastLength? expression).map (min * ·)
  | .concat expressions => leastSum? expressions
  | .alternation expressions => leastOf? expressions

def leastSum? : List Expression → Option Nat
  | [] => some 0
  | expression :: rest =>
    match leastLength? expression, leastSum? rest with
    | some first, some others => some (first + others)
    | _, _ => none

def leastOf? : List Expression → Option Nat
  | [] => none
  | [expression] => leastLength? expression
  | expression :: other :: rest =>
    match leastLength? expression, leastOf? (other :: rest) with
    | some first, some others => some (min first others)
    | _, _ => none

end

def mayMatchEmpty (expression : Expression) : Bool := expression.leastLength?.getD 0 == 0

/-! Building expressions. -/

/-- A set of one character is that character. -/
def ofSet (set : CodePoints) : Expression :=
  match set.ranges with
  | #[(low, high)] => if low = high then .literal [Char.ofNat low] else .set set
  | _ => .set set

/-- Repeats an expression. What matches only the empty text is taken once at most, and what is
repeated exactly zero times is left out together with its captures. -/
def repeated (min : Nat) (max : Option Nat) (greedy : Bool) (expression : Expression) :
    Expression :=
  let (min, max) :=
    if expression.matchesEmptyOnly then (Nat.min min 1, some ((max.getD 1).min 1)) else (min, max)
  if min = 0 ∧ max = some 0 then .empty
  else if min = 1 ∧ max = some 1 then expression
  else .repetition min max greedy expression

/-- What an expression adds to a sequence. -/
def parts : Expression → List Expression
  | .empty => []
  | .concat expressions => expressions
  | expression => [expression]

def joinLiterals : List Expression → List Expression
  | [] => []
  | .literal chars :: rest =>
    match joinLiterals rest with
    | .literal others :: rest => .literal (chars ++ others) :: rest
    | rest => .literal chars :: rest
  | expression :: rest => expression :: joinLiterals rest

def sequence (expressions : List Expression) : Expression :=
  match joinLiterals (expressions.flatMap parts) with
  | [] => .empty
  | [expression] => expression
  | expressions => .concat expressions

/-- What an expression adds to a choice. -/
def branches : Expression → List Expression
  | .alternation expressions => expressions
  | expression => [expression]

def char? : Expression → Option CodePoints
  | .literal [c] => some (.single c.toNat)
  | _ => none

def set? : Expression → Option CodePoints
  | .set chars => some chars
  | _ => none

/-- A choice between characters, or between sets of characters. -/
def mergedSet? (expressions : List Expression) : Option Expression :=
  ((expressions.mapM char?).or (expressions.mapM set?)).map fun sets => ofSet (.unions sets)

/-- A choice between expressions that are not choices themselves. -/
def choice : List Expression → Expression
  | [] => .set .empty
  | [expression] => expression
  | expressions => (mergedSet? expressions).getD (.alternation expressions)

def sequence? : Expression → Option (List Expression)
  | .concat expressions => some expressions
  | _ => none

def commonLength : List Expression → List Expression → Nat
  | left :: lefts, right :: rights => if left.same right then commonLength lefts rights + 1 else 0
  | _, _ => 0

/-- How many parts at the start all sequences have in common. -/
def sharedLength : List (List Expression) → Nat
  | [] => 0
  | first :: others =>
    others.foldl (fun length other => commonLength (first.take length) other) first.length

/-- A choice between expressions, the earlier ones being preferred. -/
def oneOf (expressions : List Expression) : Expression :=
  let expressions := expressions.flatMap branches
  match choice expressions, expressions.mapM sequence? with
  | .alternation _, some (first :: others) =>
    let length := sharedLength (first :: others)
    if length = 0 then .alternation expressions
    else
      let rests := (first :: others).map fun parts => sequence (parts.drop length)
      sequence (first.take length ++ [choice (rests.flatMap branches)])
  | chosen, _ => chosen

mutual

def captures : Expression → List (Nat × Option String)
  | .capture index name expression => (index, name) :: captures expression
  | .repetition _ _ _ expression => captures expression
  | .concat expressions => allCaptures expressions
  | .alternation expressions => allCaptures expressions
  | _ => []

def allCaptures : List Expression → List (Nat × Option String)
  | [] => []
  | expression :: rest => captures expression ++ allCaptures rest

end

end Expression

end Flowline.Pattern
