import Flowline.Text.CodePoints

/-!
Unions, complements and differences of sets of code points. The ranges of a result ascend and leave
gaps between them, so that a set has one form only.
-/

namespace Flowline.Text.CodePoints

def lastCodePoint : Nat := 0x10FFFF

/-- Joins ranges that touch or overlap; they come in the order of their lower ends. -/
def coalesce : List (Nat × Nat) → List (Nat × Nat)
  | [] => []
  | [range] => [range]
  | (low, high) :: (nextLow, nextHigh) :: rest =>
    if nextLow ≤ high + 1 then coalesce ((low, max high nextHigh) :: rest)
    else (low, high) :: coalesce ((nextLow, nextHigh) :: rest)
termination_by ranges => ranges.length

/-- The set of all code points in some of the ranges, which may come in any order. -/
def ofRanges (ranges : List (Nat × Nat)) : CodePoints :=
  ⟨(coalesce (ranges.mergeSort fun left right => decide (left.1 ≤ right.1))).toArray⟩

def empty : CodePoints := ⟨#[]⟩

def single (code : Nat) : CodePoints := ⟨#[(code, code)]⟩

def isEmpty (set : CodePoints) : Bool := set.ranges.isEmpty

def isAscii (set : CodePoints) : Bool := set.ranges.all fun range => decide (range.2 < 0x80)

def union (left right : CodePoints) : CodePoints :=
  ofRanges (left.ranges.toList ++ right.ranges.toList)

def unions (sets : List CodePoints) : CodePoints :=
  ofRanges (sets.flatMap fun set => set.ranges.toList)

/-! No character is numbered from D800 to DFFF, the surrogates. -/

def codeAfter (code : Nat) : Nat := if code = 0xD7FF then 0xE000 else code + 1

def codeBefore (code : Nat) : Nat := if code = 0xE000 then 0xD7FF else code - 1

/-- What ascending ranges leave out from `low` on. -/
def gaps (low : Nat) : List (Nat × Nat) → List (Nat × Nat)
  | [] => if low ≤ lastCodePoint then [(low, lastCodePoint)] else []
  | (first, last) :: rest =>
    if low < first then (low, codeBefore first) :: gaps (codeAfter last) rest
    else gaps (codeAfter last) rest

def complement (set : CodePoints) : CodePoints := ⟨(gaps 0 set.ranges.toList).toArray⟩

/-- What is written `[^…]`. Where one range ends in front of the surrogates and the next begins
behind them, the two characters beside the surrogates are taken to lie between the ranges. -/
def negation (set : CodePoints) : CodePoints :=
  let touches :=
    set.ranges.any (fun range => range.2 == 0xD7FF) &&
      set.ranges.any fun range => range.1 == 0xE000
  if touches then set.complement.union ⟨#[(0xD7FF, 0xE000)]⟩ else set.complement

def commonRanges : List (Nat × Nat) → List (Nat × Nat) → List (Nat × Nat)
  | [], _ => []
  | _, [] => []
  | (leftLow, leftHigh) :: left, (rightLow, rightHigh) :: right =>
    let low := max leftLow rightLow
    let high := min leftHigh rightHigh
    let others :=
      if leftHigh < rightHigh then commonRanges left ((rightLow, rightHigh) :: right)
      else commonRanges ((leftLow, leftHigh) :: left) right
    if low ≤ high then (low, high) :: others else others
termination_by left right => left.length + right.length

def inter (left right : CodePoints) : CodePoints :=
  ⟨(commonRanges left.ranges.toList right.ranges.toList).toArray⟩

def difference (left right : CodePoints) : CodePoints := left.inter right.complement

def symmetricDifference (left right : CodePoints) : CodePoints :=
  (left.union right).difference (left.inter right)

end Flowline.Text.CodePoints
