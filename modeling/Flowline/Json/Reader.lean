import Flowline.Json.Scanner

/-!
JSON text as a value. Of equal keys in an object the last one stands, and lists and objects nest at
most 127 deep.
-/

namespace Flowline.Json

namespace Scan

/-- A value whose items and fields are read by `nested`, if deeper nesting is allowed. -/
def valueWith (nested : Option (Scan Json)) (chars : List Char) :
    Except ReadError (Json × List Char) := do
  match skipBlanks chars with
  | [] => malformed .endOfValue
  | 'n' :: rest => .ok (.null, (← word ['u', 'l', 'l'] rest).2)
  | 't' :: rest => .ok (.bool true, (← word ['r', 'u', 'e'] rest).2)
  | 'f' :: rest => .ok (.bool false, (← word ['a', 'l', 's', 'e'] rest).2)
  | '"' :: rest =>
    let (text, rest) ← string rest
    .ok (.string text, rest)
  | '[' :: rest =>
    match nested with
    | none => malformed .tooDeep
    | some item =>
      let (values, rest) ← items item (rest.length + 1) true rest
      .ok (.array values, rest)
  | '\x7b' :: rest =>
    match nested with
    | none => malformed .tooDeep
    | some value =>
      let (pairs, rest) ← fields value (rest.length + 1) true rest
      .ok (.ofFields pairs, rest)
  | c :: rest =>
    if startsNumber c then
      let (value, rest) ← number (c :: rest)
      .ok (.number value, rest)
    else malformed .expectedValue

def value : Nat → Scan Json
  | 0 => valueWith none
  | depth + 1 => valueWith (some (value depth))

/-- Nothing but blanks may follow. -/
def finish {α : Type} (result : α × List Char) : Except ReadError α :=
  if (skipBlanks result.2).isEmpty then .ok result.1 else malformed .trailingCharacters

end Scan

def maxDepth : Nat := 127

def read (text : String) : Except ReadError Json :=
  Scan.value maxDepth text.toList >>= Scan.finish

end Flowline.Json
