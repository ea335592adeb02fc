import Flowline.Text.CasedTable
import Flowline.Text.CaseTable

/-!
Full case conversion. A capital sigma becomes the final form `ς` exactly where it ends a word: some
cased character stands before it, none after it, case-ignorable ones left aside.
-/

namespace Flowline.Text

/-- The counterpart of `code` in the runs from `low` up to, not including, `high`. -/
def shiftedCode (runs : Array (Nat × Nat × Nat × Int)) (code low high : Nat) : Option Nat :=
  if low < high then
    let middle := (low + high) / 2
    match runs[middle]? with
    | none => none
    | some (first, last, stride, shift) =>
      if code < first then shiftedCode runs code low middle
      else if last < code then shiftedCode runs code (middle + 1) high
      else if (code - first) % stride = 0 then some (code + shift).toNat
      else none
  else none
termination_by high - low

def mapCase (runs : Array (Nat × Nat × Nat × Int)) (expansions : Array (Nat × List Nat))
    (c : Char) : List Char :=
  match expansions.find? (fun expansion => expansion.1 == c.toNat) with
  | some (_, codes) => codes.map Char.ofNat
  | none =>
    match shiftedCode runs c.toNat 0 runs.size with
    | some code => [Char.ofNat code]
    | none => [c]

def lowercaseChar (c : Char) : List Char := mapCase lowercaseRuns lowercaseExpansions c

def uppercaseChar (c : Char) : List Char := mapCase uppercaseRuns uppercaseExpansions c

def startsCased (chars : List Char) : Bool :=
  match chars.dropWhile caseIgnorableCodePoints.contains with
  | [] => false
  | c :: _ => casedCodePoints.contains c

/-- Lowers each character; `before` holds the characters passed so far, the last one first. -/
def lowercaseFrom (before : List Char) : List Char → List Char
  | [] => []
  | c :: rest =>
    (if c = 'Σ' then [if startsCased before && !startsCased rest then 'ς' else 'σ']
      else lowercaseChar c) ++ lowercaseFrom (c :: before) rest

def lowercaseList (chars : List Char) : List Char := lowercaseFrom [] chars

def lowercase (text : String) : String := String.ofList (lowercaseList text.toList)

def uppercase (text : String) : String := String.ofList (text.toList.flatMap uppercaseChar)

def capitalizeList : List Char → List Char
  | [] => []
  | c :: rest => uppercaseChar c ++ rest

def capitalize (text : String) : String := String.ofList (capitalizeList text.toList)

end Flowline.Text
