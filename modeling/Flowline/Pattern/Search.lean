import Flowline.Pattern.Program

/-!
Searching a text. All ways through a program are followed side by side, character by character, in
the order of preference; of several matches the leftmost is found, and of those the preferred one.
-/

namespace Flowline.Pattern

abbrev Slots := Array (Option Nat)

structure Thread where
  step : Nat
  slots : Slots

/-- The threads at a place, in the order of preference, and which steps have been reached there. -/
structure Front where
  reached : Array Bool
  threads : Array Thread

namespace Front

def empty (program : Program) : Front where
  reached := Array.replicate program.steps.size false
  threads := #[]

/-- Follows steps that consume nothing, the pending ones in order, and stops at those that consume
or accept. Every step is entered once and leaves two pending at most. -/
def follow (program : Program) (position : Nat) (around : Surroundings) :
    Nat → List Thread → Front → Front
  | 0, _, front => front
  | _ + 1, [], front => front
  | fuel + 1, thread :: pending, front =>
    if front.reached.getD thread.step true then follow program position around fuel pending front
    else
      let front := { front with reached := front.reached.set! thread.step true }
      let goOn (pending : List Thread) := follow program position around fuel pending front
      match program.steps[thread.step]? with
      | none | some .fail => goOn pending
      | some (.branch first second) =>
        goOn ({ thread with step := first } :: { thread with step := second } :: pending)
      | some (.check condition unicode next) =>
        if condition.holds (isWord unicode) around then
          goOn ({ thread with step := next } :: pending)
        else goOn pending
      | some (.note slot next) =>
        goOn (⟨next, thread.slots.set! slot (some position)⟩ :: pending)
      | some (.consume _ _) | some .accept =>
        follow program position around fuel pending
          { front with threads := front.threads.push thread }

def enter (program : Program) (position : Nat) (around : Surroundings) (thread : Thread)
    (front : Front) : Front :=
  follow program position around (2 * program.steps.size + 2) [thread] front

end Front

/-- Moves the threads past the character `c`. A thread that accepts ends those behind it. -/
def moveThreads (program : Program) (c : Option Char) (position : Nat) (around : Surroundings) :
    List Thread → Front → Option Slots → Front × Option Slots
  | [], front, found => (front, found)
  | thread :: rest, front, found =>
    match program.steps[thread.step]? with
    | some .accept => (front, some thread.slots)
    | some (.consume set next) =>
      if c.any set.contains then
        moveThreads program c position around rest
          (front.enter program position around { thread with step := next }) found
      else moveThreads program c position around rest front found
    | _ => moveThreads program c position around rest front found

/-- Searches from `position` on; `before` is the character in front of the rest of the text. While
nothing has been found, a new thread starts at every place. -/
def searchFrom (program : Program) (slotCount position : Nat) (before : Option Char)
    (front : Front) (found : Option Slots) : List Char → Option Slots
  | [] =>
    let around : Surroundings := ⟨before, none⟩
    let front :=
      if found.isSome then front
      else front.enter program position around ⟨program.start, Array.replicate slotCount none⟩
    (moveThreads program none position around front.threads.toList (.empty program) found).2
  | c :: rest =>
    let front :=
      if found.isSome then front
      else front.enter program position ⟨before, some c⟩
        ⟨program.start, Array.replicate slotCount none⟩
    if front.threads.isEmpty && found.isSome then found
    else
      let (next, found) := moveThreads program (some c) (position + 1) ⟨some c, rest.head?⟩
        front.threads.toList (.empty program) found
      searchFrom program slotCount (position + 1) (some c) next found rest

end Flowline.Pattern
