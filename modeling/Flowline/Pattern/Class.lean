import Flowline.Pattern.Escape

/-!
Character classes in brackets: characters, ranges, named classes and classes in classes, joined by
the operators `&&`, `--` and `~~`, which are applied from left to right.
-/

namespace Flowline.Pattern

open ScanM

def posixNames : List String :=
  ["alnum", "alpha", "ascii", "blank", "cntrl", "digit", "graph", "lower", "print", "punct",
    "space", "upper", "word", "xdigit"]

namespace ClassItem

def span : ClassItem → Span
  | .literal one => one.span
  | .range first last => ⟨first.span.start, last.span.stop⟩
  | .posix _ _ span | .short _ _ span | .property _ _ span | .bracketed _ _ span => span

end ClassItem

/-- A class such as `[:alpha:]`; should it be none, nothing is read. -/
def posixClass? : ScanM (Option ClassItem) := do
  let before ← get
  let start ← place
  if ← accept ['[', ':'] then
    let negated ← accept ['^']
    let name := (← get).rest.takeWhile fun c => c != ':'
    modify (Scanner.advanceBy name.length)
    let name := String.ofList name
    if (← accept [':', ']']) && posixNames.contains name then
      return some (.posix name negated (← spanFrom start))
    else
      set before
      return none
  else return none

def operator? (c : Char) : ScanM (Option ClassOperator) := do
  let behind := (← get).rest.tail.head?
  if behind != some c then return none
  else
    let found : Option ClassOperator :=
      if c = '&' then some .intersection
      else if c = '-' then some .difference
      else if c = '~' then some .symmetricDifference
      else none
    if found.isSome then modify (Scanner.advanceBy 2)
    return found

def classPrimitive : ScanM Node := do
  match ← current? with
  | some '\\' => escape
  | c =>
    let span ← charSpan
    let _ ← advance
    return .literal ⟨c.getD ' ', false, span⟩

def itemOf : Node → ScanM ClassItem
  | .literal one => return .literal one
  | .short kind negated span => return .short kind negated span
  | .property query negated span => return .property query negated span
  | other => fault .classEscape other.span

def rangeEnd : Node → ScanM Literal
  | .literal one => return one
  | other => fault .classRangeEnds other.span

/-- An item or a range. A hyphen before a closing bracket stands for itself, and one before another
hyphen starts an operator. -/
def classRange (opened : Span) : ScanM ClassItem := do
  let first ← classPrimitive
  skipSpace
  if ← atEnd then fault .classUnclosed opened
  else
    let behind := (← get).charBehind?
    if (← current?) != some '-' || behind == some ']' || behind == some '-' then itemOf first
    else if ← advanceSpace then
      let last ← classPrimitive
      let low ← rangeEnd first
      let high ← rangeEnd last
      if high.char < low.char then
        fault .classRangeOrder ⟨first.span.start, last.span.stop⟩
      else return .range low high
    else fault .classUnclosed opened

/-- What has been read of a class, behind the operator that is pending. -/
def joined (start : Place) (pending : Option (ClassOperator × ClassSet))
    (items : List ClassItem) : ClassSet :=
  let span : Span :=
    match items.head?, items.getLast? with
    | some first, some last => ⟨first.span.start, last.span.stop⟩
    | _, _ => .point start
  let set := ClassSet.items items span
  match pending with
  | none => set
  | some (operator, left) => .operation operator left set ⟨left.span.start, span.stop⟩

def leadingHyphens (start : Place) : Nat → List ClassItem → ScanM (List ClassItem)
  | 0, items => return items
  | fuel + 1, items => do
    if (← current?) == some '-' then
      let item := ClassItem.literal ⟨'-', false, ← charSpan⟩
      if ← advanceSpace then leadingHyphens start fuel (items ++ [item])
      else fault .classUnclosed (.point start)
    else return items

/-- The start of a class: its bracket, its negation, and the items that only there stand for
themselves. -/
def classOpening : ScanM (Bool × List ClassItem × Span) := do
  let start ← place
  let unclosed {α : Type} : ScanM α := do fault .classUnclosed (← spanFrom start)
  if !(← advanceSpace) then unclosed
  else
    let negated := (← current?) == some '^'
    let open? ← if negated then advanceSpace else pure true
    if !open? then unclosed
    else
      let items ← leadingHyphens start (← remaining) []
      if items.isEmpty && (← current?) == some ']' then
        let item := ClassItem.literal ⟨']', false, ← charSpan⟩
        if ← advanceSpace then return (negated, [item], ← spanFrom start)
        else unclosed
      else return (negated, items, ← spanFrom start)

mutual

def bracketed : Nat → ScanM (Bool × ClassSet × Span)
  | 0 => do fault .classUnclosed (← here)
  | fuel + 1 => do
    let start ← place
    let (negated, items, opened) ← classOpening
    let content ← classBody fuel opened opened.stop none items
    let _ ← advance
    return (negated, content, ← spanFrom start)

def classBody : Nat → Span → Place → Option (ClassOperator × ClassSet) → List ClassItem →
    ScanM ClassSet
  | 0, opened, _, _, _ => fault .classUnclosed opened
  | fuel + 1, opened, start, pending, items => do
    skipSpace
    match ← current? with
    | none => fault .classUnclosed opened
    | some ']' => return joined start pending items
    | some '[' =>
      match ← posixClass? with
      | some item => classBody fuel opened start pending (items ++ [item])
      | none =>
        let (negated, content, span) ← bracketed fuel
        classBody fuel opened start pending (items ++ [.bracketed negated content span])
    | some c =>
      match ← operator? c with
      | some operator =>
        classBody fuel opened (← place) (some (operator, joined start pending items)) []
      | none =>
        let item ← classRange opened
        classBody fuel opened start pending (items ++ [item])

end

end Flowline.Pattern
