import Flowline.Text.CodePoints.Algebra
import Flowline.Text.FoldingTable

/-!
Closing sets of code points under a change of case.
-/

namespace Flowline.Text

/-- The pairs of a run, its strides being at least one. -/
def runPairs : Nat × Nat × Nat × Nat → List (List Nat)
  | (first, last, stride, shift) =>
    (List.range ((last - first) / stride + 1)).map fun step =>
      [first + step * stride, first + step * stride + shift]

/-- Sets of code points that differ in case only. -/
def caseOrbits : List (List Nat) := foldingRuns.flatMap runPairs ++ foldingOrbits

namespace CodePoints

def hasCode (set : CodePoints) (code : Nat) : Bool := search set.ranges code 0 set.ranges.size

def foldClosure (set : CodePoints) : CodePoints :=
  let added := caseOrbits.filter fun orbit => orbit.any set.hasCode
  ofRanges (set.ranges.toList ++ added.flatten.map fun code => (code, code))

def asciiFoldClosure (set : CodePoints) : CodePoints :=
  let added := (List.range 26).filter fun letter =>
    set.hasCode (0x41 + letter) || set.hasCode (0x61 + letter)
  ofRanges (set.ranges.toList ++
    added.flatMap fun letter => [(0x41 + letter, 0x41 + letter), (0x61 + letter, 0x61 + letter)])

end CodePoints

end Flowline.Text
