import Flowline.Json.Scanner

/-!
Values that are passed over. Only their syntax is checked: surrogates, the range of numbers and the
depth of nesting are left alone, and what follows the comma of a list has to be a value.
-/

namespace Flowline.Json.Scan

/-- The number of characters of an escape after its backslash. -/
def skipEscape (chars : List Char) : Except ReadError Nat :=
  match chars with
  | [] => malformed .endOfString
  | c :: rest =>
    if (simpleEscape? c).isSome then .ok 1
    else if c = 'u' then (fourHex rest).map fun _ => 5
    else malformed .invalidEscape

/-- What follows a string whose opening quote has been read. -/
def skipString (chars : List Char) : Except ReadError (List Char) :=
  match chars with
  | [] => malformed .endOfString
  | c :: rest =>
    if c = '"' then .ok rest
    else if c = '\\' then
      match skipEscape rest with
      | .error error => .error error
      | .ok count => skipString (rest.drop count)
    else if c.toNat < 0x20 then malformed .controlCharacter
    else skipString rest
termination_by chars.length
decreasing_by all_goals simp; try omega

def skipDigits (chars : List Char) : Except ReadError (List Char) :=
  match chars with
  | c :: rest =>
    if c.isDigit then .ok (rest.dropWhile Char.isDigit) else malformed .invalidNumber
  | [] => malformed .invalidNumber

def skipExponent : Scan Unit
  | c :: rest =>
    if isExponentMark c then (skipDigits (Decimal.splitSign rest).2).map fun rest => ((), rest)
    else .ok ((), c :: rest)
  | [] => .ok ((), [])

def skipNumber (chars : List Char) : Except ReadError (List Char) := do
  let chars :=
    match chars with
    | '-' :: rest => rest
    | chars => chars
  let rest ←
    match chars with
    | '0' :: rest =>
      if (rest.head?.map Char.isDigit).getD false then malformed .invalidNumber else .ok rest
    | chars => skipDigits chars
  let rest ←
    match rest with
    | '.' :: digits => skipDigits digits
    | rest => .ok rest
  (skipExponent rest).map Prod.snd

inductive Frame where
  | list
  | object

/-- What is read next: a value, the first item or field of what was opened last, or what follows a
value. -/
inductive Expectation where
  | value
  | opened
  | separator

/-- The value of a field, from its key on. -/
def skipKey (chars : List Char) : Except ReadError (List Char) := do
  match skipBlanks chars with
  | [] => malformed .endOfObject
  | '"' :: rest =>
    match skipBlanks (← skipString rest) with
    | [] => malformed .endOfObject
    | ':' :: rest => .ok rest
    | _ => malformed .expectedColon
  | _ => malformed .keyNotString

/-- Each step but the opening of what follows a bracket takes a character, so twice their number is
fuel enough. -/
def skipFrom : Nat → Expectation → List Frame → List Char → Except ReadError (List Char)
  | 0, _, _, _ => malformed .endOfValue
  | fuel + 1, .value, frames, chars => do
    match skipBlanks chars with
    | [] => malformed .endOfValue
    | 'n' :: rest => skipFrom fuel .separator frames (← word ['u', 'l', 'l'] rest).2
    | 't' :: rest => skipFrom fuel .separator frames (← word ['r', 'u', 'e'] rest).2
    | 'f' :: rest => skipFrom fuel .separator frames (← word ['a', 'l', 's', 'e'] rest).2
    | '"' :: rest => skipFrom fuel .separator frames (← skipString rest)
    | '[' :: rest => skipFrom fuel .opened (.list :: frames) rest
    | '\x7b' :: rest => skipFrom fuel .opened (.object :: frames) rest
    | c :: rest =>
      if startsNumber c then skipFrom fuel .separator frames (← skipNumber (c :: rest))
      else malformed .expectedValue
  | _ + 1, .opened, [], chars => .ok chars
  | fuel + 1, .opened, .list :: frames, chars =>
    match skipBlanks chars with
    | [] => malformed .endOfList
    | ']' :: rest => skipFrom fuel .separator frames rest
    | rest => skipFrom fuel .value (.list :: frames) rest
  | fuel + 1, .opened, .object :: frames, chars => do
    match skipBlanks chars with
    | [] => malformed .endOfObject
    | '\x7d' :: rest => skipFrom fuel .separator frames rest
    | rest => skipFrom fuel .value (.object :: frames) (← skipKey rest)
  | _ + 1, .separator, [], chars => .ok chars
  | fuel + 1, .separator, .list :: frames, chars =>
    match skipBlanks chars with
    | [] => malformed .endOfList
    | ']' :: rest => skipFrom fuel .separator frames rest
    | ',' :: rest => skipFrom fuel .value (.list :: frames) rest
    | _ => malformed .expectedListEnd
  | fuel + 1, .separator, .object :: frames, chars => do
    match skipBlanks chars with
    | [] => malformed .endOfObject
    | '\x7d' :: rest => skipFrom fuel .separator frames rest
    | ',' :: rest => skipFrom fuel .value (.object :: frames) (← skipKey rest)
    | _ => malformed .expectedObjectEnd

/-- What follows a value that is passed over. -/
def skipValue (chars : List Char) : Except ReadError (List Char) :=
  skipFrom (2 * chars.length + 2) .value [] chars

end Flowline.Json.Scan
