import Std.Data.HashMap

/-!
A memo of states by what they do. It has a fixed number of slots, and an entry takes the place of
the one before it in its slot; a state that has been forgotten is built once more.
-/

namespace Flowline.Pattern

/-- Mixes in each number by an exclusive or and a multiplication. -/
def hashOf (numbers : List Nat) : UInt64 :=
  numbers.foldl (fun hash number => (hash ^^^ number.toUInt64) * 0x100000001B3) 0xCBF29CE484222325

structure Memo where
  capacity : Nat
  entries : Std.HashMap Nat (List Nat × Nat)

namespace Memo

def empty (capacity : Nat) : Memo := ⟨capacity, {}⟩

def slot (memo : Memo) (key : List Nat) : Nat := (hashOf key).toNat % memo.capacity

def find? (memo : Memo) (key : List Nat) : Option Nat :=
  match memo.entries[memo.slot key]? with
  | some (found, state) => if found = key then some state else none
  | none => none

def insert (memo : Memo) (key : List Nat) (state : Nat) : Memo :=
  { memo with entries := memo.entries.insert (memo.slot key) (key, state) }

end Memo

end Flowline.Pattern
