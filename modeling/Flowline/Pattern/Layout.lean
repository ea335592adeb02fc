import Flowline.Pattern.Expression
import Flowline.Pattern.Memo
import Flowline.Text.Utf8

/-!
The layout of an expression as an automaton over bytes, once to be read forward and once to be read
backward. Only the number of states and the bytes that they take are kept, for an expression is
refused when either layout is too large.
-/

namespace Flowline.Pattern

open Text (ByteSequence CodePoints Utf8.branches)

/-- Captures are noted when reading forward only. -/
inductive Direction where
  | forward
  | backward
deriving DecidableEq

/-- How many states have been laid out, and how many bytes they take. -/
structure Layout where
  limit : Nat
  states : Nat
  bytes : Nat

/-- A layout fails at the first state for which there is no room. -/
abbrev LayoutM := StateT Layout Option

namespace Layout

/-! What a state takes by itself, for a way to another state, and for a range of bytes with the
state to which it leads. -/

def stateBytes : Nat := 32

def linkBytes : Nat := 4

def rangeBytes : Nat := 8

/-- How many states are remembered while a set is laid out. -/
def memoCapacity : Direction → Nat
  | .forward => 10000
  | .backward => 1000

/-- Adds a state that takes `more` bytes besides its own, and returns its number. -/
def addState (more : Nat) : LayoutM Nat := fun layout =>
  let bytes := layout.bytes + stateBytes + more
  if layout.limit < bytes then none
  else some (layout.states, { layout with states := layout.states + 1, bytes })

/-- A state that reads one range of bytes, or goes on without reading. -/
def addPlain : LayoutM Unit := discard (addState 0)

/-- A state that goes on to one of `count` states without reading. -/
def addFork (count : Nat) : LayoutM Nat := addState (linkBytes * count)

/-- A state that reads a byte from one of `count` ranges. -/
def addChoice (count : Nat) : LayoutM Nat := addState (rangeBytes * count)

def copies (part : LayoutM Unit) : Nat → LayoutM Unit
  | 0 => return ()
  | count + 1 => do
    part
    copies part count

/-! Sets of characters. -/

/-- Lays out what reads some of the sequences and goes on to `target`, up to `depth` bytes from
there. States that read the same are shared as far as the memo goes. -/
def forwardPlace (target : Nat) : Nat → List ByteSequence → StateT Memo LayoutM Nat
  | 0, _ => return target
  | depth + 1, sequences =>
    match Utf8.branches sequences with
    | [] => return target
    | branches => do
      let links ← branches.mapM fun (range, rest) => do
        return [range.1, range.2, ← forwardPlace target depth rest]
      let key := links.flatten
      match (← get).find? key with
      | some place => return place
      | none =>
        let place ← addChoice links.length
        modify fun memo => memo.insert key place
        return place

/-- Lays out the ranges of a sequence, the last of which is read first, behind the state `next`.
States that lead on alike are shared as far as the memo goes. -/
def backwardPlaces (memo : Memo) (next : Nat) : ByteSequence → LayoutM Memo
  | [] => return memo
  | (low, high) :: rest =>
    match memo.find? [next, low, high] with
    | some place => backwardPlaces memo place rest
    | none => do
      let place ← addState 0
      backwardPlaces (memo.insert [next, low, high] place) place rest

def addSet (direction : Direction) (set : CodePoints) : LayoutM Unit := do
  if set.isAscii then
    addPlain
    discard (addChoice set.ranges.size)
  else
    let sequences := set.ranges.toList.flatMap fun range => Text.Utf8.ofRange range.1 range.2
    let memo := Memo.empty (memoCapacity direction)
    match direction with
    | .forward =>
      let target ← addState 0
      discard ((forwardPlace target 4 sequences).run memo)
    | .backward =>
      discard (addFork sequences.length)
      let target ← addState 0
      discard (sequences.foldlM (fun memo => backwardPlaces memo target) memo)

/-! A choice between literals, as a tree in which literals that begin alike share states. A literal
that ends inside the tree is preferred to those that come later and go on. -/

/-- Groups by the first byte what follows it. -/
def byFirstByte (literals : List (List UInt8)) : List (List (List UInt8)) :=
  (literals.filterMap List.head?).eraseDups.map fun first =>
    literals.filterMap fun literal =>
      match literal with
      | [] => none
      | byte :: rest => if byte = first then some rest else none

/-- The longest runs of literals that do not end here. -/
def runs (literals : List (List UInt8)) : List (List (List UInt8)) :=
  (literals.splitOnP List.isEmpty).filter fun run => !run.isEmpty

/-- How often a literal ends here, where ends in a row count once at the start. -/
def ends (literals : List (List UInt8)) : Nat :=
  let leading := (literals.takeWhile List.isEmpty).length
  literals.countP List.isEmpty - (leading - 1)

/-- The tree of literals that have `depth` bytes at most. -/
def addTree : Nat → List (List UInt8) → LayoutM Unit
  | 0, _ => return ()
  | depth + 1, literals => do
    let runs := runs literals
    unless runs.isEmpty do
      for run in runs do
        let groups := byFirstByte run
        for group in groups do addTree depth group
        if groups.length = 1 then addPlain else discard (addChoice groups.length)
      discard (addFork (runs.length + ends literals))

def addLiterals (direction : Direction) (literals : List (List Char)) : LayoutM Unit := do
  let bytes := literals.map fun literal =>
    let bytes := literal.flatMap String.utf8EncodeChar
    match direction with
    | .forward => bytes
    | .backward => bytes.reverse
  addPlain
  addTree ((bytes.map List.length).foldl max 0) bytes

/-! Repetitions. -/

/-- Parts up to `count` times, each of which may be the last. -/
def optionalCopies (part : LayoutM Unit) (count : Nat) : LayoutM Unit := do
  addPlain
  copies (do
    discard (addFork 2)
    part) count

def addRepetition (part : LayoutM Unit) (min : Nat) (max : Option Nat) (mayMatchEmpty : Bool) :
    LayoutM Unit := do
  match min, max with
  | 0, some 1 =>
    discard (addFork 2)
    part
    addPlain
  | 0, none =>
    if mayMatchEmpty then
      part
      discard (addFork 2)
      discard (addFork 2)
      addPlain
    else
      discard (addFork 2)
      part
  | min, none =>
    copies part min
    discard (addFork 2)
  | 0, some max =>
    addPlain
    optionalCopies part max
  | min, some max =>
    copies part min
    if min != max then optionalCopies part (max - min)

end Layout

namespace Expression

open Layout

def literal? : Expression → Option (List Char)
  | .literal chars => some chars
  | _ => none

mutual

def layOut (direction : Direction) : Expression → LayoutM Unit
  | .empty => addPlain
  | .literal chars => copies addPlain (chars.map Char.utf8Size).sum
  | .set chars => addSet direction chars
  | .condition _ _ => addPlain
  | .capture _ _ expression => do
    match direction with
    | .forward =>
      addPlain
      layOut direction expression
      addPlain
    | .backward => layOut direction expression
  | .repetition min max _ expression =>
    addRepetition (layOut direction expression) min max expression.mayMatchEmpty
  | .concat expressions =>
    match direction with
    | .forward => layOutInOrder direction expressions
    | .backward => layOutFromLast direction expressions
  | .alternation expressions =>
    match expressions.mapM literal? with
    | some literals => addLiterals direction literals
    | none => layOutBranches direction expressions.length 1 expressions

def layOutInOrder (direction : Direction) : List Expression → LayoutM Unit
  | [] => return ()
  | expression :: rest => do
    layOut direction expression
    layOutInOrder direction rest

def layOutFromLast (direction : Direction) : List Expression → LayoutM Unit
  | [] => return ()
  | expression :: rest => do
    layOutFromLast direction rest
    layOut direction expression

/-- The branches of a choice. The fork that leads to all of them, and the state where they meet,
come behind the second one. -/
def layOutBranches (direction : Direction) (count : Nat) : Nat → List Expression → LayoutM Unit
  | _, [] => return ()
  | number, expression :: rest => do
    layOut direction expression
    if number = 2 then
      discard (addFork count)
      addPlain
    layOutBranches direction count (number + 1) rest

end

/-! Conditions that every match fulfils where it begins or ends. -/

mutual

def startsAt (condition : Condition) : Expression → Bool
  | .condition found _ => found == condition
  | .capture _ _ expression => startsAt condition expression
  | .repetition min _ _ expression => min != 0 && startsAt condition expression
  | .concat expressions => firstStartsAt condition expressions
  | .alternation expressions => allStartAt condition expressions
  | _ => false

def firstStartsAt (condition : Condition) : List Expression → Bool
  | [] => false
  | expression :: rest =>
    startsAt condition expression ||
      (expression.matchesEmptyOnly && firstStartsAt condition rest)

def allStartAt (condition : Condition) : List Expression → Bool
  | [] => true
  | expression :: rest => startsAt condition expression && allStartAt condition rest

end

mutual

def endsAt (condition : Condition) : Expression → Bool
  | .condition found _ => found == condition
  | .capture _ _ expression => endsAt condition expression
  | .repetition min _ _ expression => min != 0 && endsAt condition expression
  | .concat expressions => lastEndsAt condition expressions
  | .alternation expressions => allEndAt condition expressions
  | _ => false

def lastEndsAt (condition : Condition) : List Expression → Bool
  | [] => false
  | expression :: rest =>
    lastEndsAt condition rest || (allMatchEmptyOnly rest && endsAt condition expression)

def allEndAt (condition : Condition) : List Expression → Bool
  | [] => true
  | expression :: rest => endsAt condition expression && allEndAt condition rest

end

/-- Whether every match begins, or read backward ends, where the text does. -/
def isBound (expression : Expression) : Direction → Bool
  | .forward => expression.startsAt .startText
  | .backward => expression.endsAt .endText

/-- Any bytes in front of a match, unless the expression is bound; the expression; acceptance. -/
def layOutWhole (expression : Expression) (direction : Direction) : LayoutM Unit := do
  if expression.isBound direction then addPlain
  else
    discard (addFork 2)
    addPlain
    discard (addChoice 1)
  (Expression.capture 0 none expression).layOut direction
  addPlain

/-- Whether both layouts take `limit` bytes at most. -/
def fits (limit : Nat) (expression : Expression) : Bool :=
  [Direction.forward, .backward].all fun direction =>
    ((expression.layOutWhole direction).run ⟨limit, 0, 0⟩).isSome

end Expression

end Flowline.Pattern
