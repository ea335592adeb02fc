import Flowline.Text.Blank

/-!
Sets of code points, written as ascending ranges of hexadecimal numbers such as `30-39 41-5A 5F`
with blanks between them. Membership is a binary search over the ranges.
-/

namespace Flowline.Text

/-- The value of a hexadecimal digit, in either case. -/
def hexValue? (c : Char) : Option Nat :=
  if c.isDigit then some (c.toNat - 0x30)
  else if 'a' ≤ c ∧ c ≤ 'f' then some (c.toNat - 0x61 + 10)
  else if 'A' ≤ c ∧ c ≤ 'F' then some (c.toNat - 0x41 + 10)
  else none

/-- Ascending, disjoint, inclusive ranges. -/
structure CodePoints where
  ranges : Array (Nat × Nat)

namespace CodePoints

def hexNumber (digits : String) : Nat :=
  digits.foldl (fun value c => 16 * value + (hexValue? c).getD 0) 0

def readRange (text : String) : Nat × Nat :=
  match text.splitOn "-" with
  | [low, high] => (hexNumber low, hexNumber high)
  | _ => (hexNumber text, hexNumber text)

def read (text : String) : CodePoints :=
  ⟨((words text).map readRange).toArray⟩

/-- Looks for `code` among the ranges from `low` up to, not including, `high`. -/
def search (ranges : Array (Nat × Nat)) (code low high : Nat) : Bool :=
  if low < high then
    let middle := (low + high) / 2
    match ranges[middle]? with
    | none => false
    | some (first, last) =>
      if code < first then search ranges code low middle
      else if last < code then search ranges code (middle + 1) high
      else true
  else false
termination_by high - low

def contains (set : CodePoints) (c : Char) : Bool :=
  search set.ranges c.toNat 0 set.ranges.size

end CodePoints

end Flowline.Text
