import Flowline.Pattern.Meaning

/-!
Programs for matching: steps that consume a character, check a place, note a place or branch, the
first branch being preferred. A program is built from its end, each part being given the step that
follows it.
-/

namespace Flowline.Pattern

open Text (CodePoints)

inductive Step where
  | consume (set : CodePoints) (next : Nat)
  | check (condition : Condition) (unicode : Bool) (next : Nat)
  | note (slot : Nat) (next : Nat)
  | branch (first second : Nat)
  | accept
  | fail

structure Program where
  steps : Array Step
  start : Nat

namespace Program

abbrev Build := StateM (Array Step)

/-- Adds a step and returns its number. -/
def add (step : Step) : Build Nat := fun steps => (steps.size, steps.push step)

def set (index : Nat) (step : Step) : Build Unit := modify fun steps => steps.set! index step

/-- Prefers the body if `greedy`, and what follows otherwise. -/
def choice (greedy : Bool) (body next : Nat) : Step :=
  if greedy then .branch body next else .branch next body

/-- `count` copies of a part, one after another. -/
def copies (part : Nat → Build Nat) : Nat → Nat → Build Nat
  | 0, next => return next
  | count + 1, next => do copies part count (← part next)

/-- Up to `count` copies of a part, each of which may be the last. -/
def optionalCopies (part : Nat → Build Nat) (greedy : Bool) : Nat → Nat → Build Nat
  | 0, next => return next
  | count + 1, next => do
    let inner ← optionalCopies part greedy count next
    let body ← part inner
    add (choice greedy body next)

/-- A part once or more often. -/
def atLeastOnce (part : Nat → Build Nat) (greedy : Bool) (next : Nat) : Build Nat := do
  let again ← add .fail
  let body ← part again
  set again (choice greedy body next)
  return body

/-- A part any number of times. If it can match the empty text, it is entered through a branch of
its own, so that a way round the loop without progress is not preferred to leaving it. -/
def anyTimes (part : Nat → Build Nat) (greedy mayBeEmpty : Bool) (next : Nat) : Build Nat := do
  if mayBeEmpty then
    let body ← atLeastOnce part greedy next
    add (choice greedy body next)
  else
    let again ← add .fail
    let body ← part again
    set again (choice greedy body next)
    return again

def repetition (part : Nat → Build Nat) (min : Nat) (max : Option Nat)
    (greedy mayBeEmpty : Bool) (next : Nat) : Build Nat := do
  match max with
  | some max =>
    let tail ← optionalCopies part greedy (max - min) next
    copies part min tail
  | none =>
    match min with
    | 0 => anyTimes part greedy mayBeEmpty next
    | min + 1 =>
      let tail ← atLeastOnce part greedy next
      copies part min tail

def emitChars (next : Nat) : List Char → Build Nat
  | [] => return next
  | c :: rest => do add (.consume (.single c.toNat) (← emitChars next rest))

mutual

/-- The first step of an expression that is followed by the step `next`. -/
def emit : Expression → Nat → Build Nat
  | .empty, next => return next
  | .literal chars, next => emitChars next chars
  | .set set, next => add (.consume set next)
  | .condition condition unicode, next => add (.check condition unicode next)
  | .capture index _ expression, next => do
    let closing ← add (.note (2 * index + 1) next)
    let body ← emit expression closing
    add (.note (2 * index) body)
  | .repetition min max greedy expression, next =>
    repetition (fun next => emit expression next) min max greedy expression.mayMatchEmpty next
  | .concat expressions, next => emitAll expressions next
  | .alternation expressions, next => emitAny expressions next

def emitAll : List Expression → Nat → Build Nat
  | [], next => return next
  | expression :: rest, next => do emit expression (← emitAll rest next)

def emitAny : List Expression → Nat → Build Nat
  | [], _ => add .fail
  | [expression], next => emit expression next
  | expression :: other :: rest, next => do
    let second ← emitAny (other :: rest) next
    let first ← emit expression next
    add (.branch first second)

end

def ofExpression (expression : Expression) : Program :=
  let build : Build Nat := do
    let accept ← add .accept
    emit (.capture 0 none expression) accept
  let (start, steps) := build.run #[]
  { steps, start }

end Program

end Flowline.Pattern
