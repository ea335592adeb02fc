import Flowline.Decimal.Reading
import Flowline.Json.ReadError
import Flowline.Text.CodePoints

/-!
Scanning of JSON text, one token or separator at a time. A scan returns what it has read together
with the characters that follow.
-/

namespace Flowline.Json

abbrev Scan (α : Type) := List Char → Except ReadError (α × List Char)

def malformed {α : Type} (error : SyntaxError) : Except ReadError α := .error (.malformed error)

namespace Scan

def skipBlanks (chars : List Char) : List Char :=
  chars.dropWhile fun c => c == ' ' || c == '\n' || c == '\t' || c == '\x0d'

/-- The letters left of a word whose first letter has been read. -/
def word : List Char → Scan Unit
  | [], chars => .ok ((), chars)
  | _ :: _, [] => malformed .endOfValue
  | letter :: letters, c :: rest =>
    if c = letter then word letters rest else malformed .expectedWord

/-! Strings. -/

/-- Four hexadecimal digits; with fewer than four bytes left the text ends too early. -/
def fourHex (chars : List Char) : Except ReadError Nat :=
  if (String.ofList (chars.take 4)).utf8ByteSize < 4 then malformed .endOfString
  else
    match (chars.take 4).mapM Text.hexValue? with
    | some [a, b, c, d] => .ok (((a * 16 + b) * 16 + c) * 16 + d)
    | _ => malformed .invalidEscape

def isLowSurrogate (code : Nat) : Bool := 0xDC00 ≤ code && code ≤ 0xDFFF

def isHighSurrogate (code : Nat) : Bool := 0xD800 ≤ code && code ≤ 0xDBFF

/-- The character of a `\u` escape and the number of characters read after the `u`; surrogates come
in pairs of escapes. -/
def unicodeEscape (chars : List Char) : Except ReadError (Char × Nat) := do
  let high ← fourHex chars
  if isLowSurrogate high then malformed .loneSurrogate
  else if !isHighSurrogate high then .ok (Char.ofNat high, 4)
  else
    match chars.drop 4 with
    | [] => malformed .endOfString
    | '\\' :: [] => malformed .endOfString
    | '\\' :: 'u' :: rest =>
      let low ← fourHex rest
      if isLowSurrogate low then
        .ok (Char.ofNat (0x10000 + (high - 0xD800) * 0x400 + (low - 0xDC00)), 10)
      else malformed .loneSurrogate
    | _ => malformed .unfinishedSurrogate

def simpleEscape? (c : Char) : Option Char :=
  if c = '"' ∨ c = '\\' ∨ c = '/' then some c
  else if c = 'b' then some '\x08'
  else if c = 'f' then some '\x0c'
  else if c = 'n' then some '\n'
  else if c = 'r' then some '\x0d'
  else if c = 't' then some '\t'
  else none

/-- The character of an escape and the number of characters read after the backslash. -/
def escape (chars : List Char) : Except ReadError (Char × Nat) :=
  match chars with
  | [] => malformed .endOfString
  | c :: rest =>
    match simpleEscape? c with
    | some character => .ok (character, 1)
    | none =>
      if c = 'u' then (unicodeEscape rest).map fun (character, count) => (character, count + 1)
      else malformed .invalidEscape

/-- The rest of a string after its opening quote; `read` holds what precedes, in reverse. -/
def stringFrom (read : List Char) (chars : List Char) : Except ReadError (String × List Char) :=
  match chars with
  | [] => malformed .endOfString
  | c :: rest =>
    if c = '"' then .ok (String.ofList read.reverse, rest)
    else if c = '\\' then
      match escape rest with
      | .error error => .error error
      | .ok (character, count) => stringFrom (character :: read) (rest.drop count)
    else if c.toNat < 0x20 then malformed .controlCharacter
    else stringFrom (c :: read) rest
termination_by chars.length
decreasing_by all_goals simp; try omega

def string : Scan String := stringFrom []

/-! Numbers. -/

/-- Digits after a point or an exponent; at least one is required. -/
def someDigits (chars : List Char) : Except ReadError (List Char × List Char) :=
  let digits := chars.takeWhile Char.isDigit
  let rest := chars.dropWhile Char.isDigit
  if !digits.isEmpty then .ok (digits, rest)
  else if rest.isEmpty then malformed .endOfValue
  else malformed .invalidNumber

/-- Digits before the point; a leading zero stands alone. -/
def wholeDigits (chars : List Char) : Except ReadError (List Char × List Char) := do
  let (digits, rest) ← someDigits chars
  if digits.length > 1 && digits.head? == some '0' then malformed .invalidNumber
  else .ok (digits, rest)

def isExponentMark (c : Char) : Bool := c == 'e' || c == 'E'

def realNumber (decimal : Decimal) : Except ReadError Number :=
  let value := decimal.toFloat
  if h : value.isFinite = true then .ok (.real value h) else malformed .numberOutOfRange

/-- Integers beyond 64 bits and the negative zero are read as doubles. -/
def integerNumber (negative : Bool) (digits : Nat) : Except ReadError Number :=
  let value : Int := if negative then -(digits : Int) else digits
  if h : -0x8000000000000000 ≤ value ∧ value < 0x10000000000000000 then
    if negative && digits == 0 then realNumber ⟨negative, digits, 0⟩
    else .ok (.integer value h)
  else realNumber ⟨negative, digits, 0⟩

def exponentPart (chars : List Char) : Except ReadError (Int × List Char) := do
  let (negative, rest) := Decimal.splitSign chars
  let (digits, rest) ← someDigits rest
  let exponent := Decimal.digitsValue digits
  .ok (if negative then -(exponent : Int) else exponent, rest)

def number (chars : List Char) : Except ReadError (Number × List Char) := do
  let (negative, chars) :=
    match chars with
    | '-' :: rest => (true, rest)
    | chars => (false, chars)
  let (whole, rest) ← wholeDigits chars
  let (fraction, afterFraction) ←
    match rest with
    | '.' :: digits => someDigits digits
    | _ => .ok ([], rest)
  let digits := Decimal.digitsValue (whole ++ fraction)
  match afterFraction with
  | mark :: exponentChars =>
    if isExponentMark mark then
      let (exponent, rest) ← exponentPart exponentChars
      let value ← realNumber ⟨negative, digits, exponent - fraction.length⟩
      .ok (value, rest)
    else if fraction.isEmpty then
      let value ← integerNumber negative digits
      .ok (value, afterFraction)
    else
      let value ← realNumber ⟨negative, digits, -(fraction.length : Int)⟩
      .ok (value, afterFraction)
  | [] =>
    if fraction.isEmpty then
      let value ← integerNumber negative digits
      .ok (value, [])
    else
      let value ← realNumber ⟨negative, digits, -(fraction.length : Int)⟩
      .ok (value, [])

def startsNumber (c : Char) : Bool := c == '-' || c.isDigit

/-! Separators of lists and objects. -/

/-- Where the next item of a list starts, if there is one. -/
def nextItem (first : Bool) (chars : List Char) : Except ReadError (Option (List Char)) :=
  match skipBlanks chars with
  | [] => malformed .endOfList
  | ']' :: _ => .ok none
  | c :: rest =>
    if first then .ok (some (c :: rest))
    else if c = ',' then
      match skipBlanks rest with
      | [] => malformed .endOfValue
      | ']' :: _ => malformed .trailingComma
      | item => .ok (some item)
    else malformed .expectedListEnd

def endList (chars : List Char) : Except ReadError (List Char) :=
  match skipBlanks chars with
  | [] => malformed .endOfList
  | ']' :: rest => .ok rest
  | ',' :: rest =>
    match skipBlanks rest with
    | ']' :: _ => malformed .trailingComma
    | _ => malformed .trailingCharacters
  | _ => malformed .trailingCharacters

/-- What follows the opening quote of the next key of an object, if there is one. -/
def nextKey (first : Bool) (chars : List Char) : Except ReadError (Option (List Char)) :=
  match skipBlanks chars with
  | [] => malformed .endOfObject
  | '\x7d' :: _ => .ok none
  | c :: rest =>
    if first then
      if c = '"' then .ok (some rest) else malformed .keyNotString
    else if c = ',' then
      match skipBlanks rest with
      | [] => malformed .endOfValue
      | '"' :: key => .ok (some key)
      | '\x7d' :: _ => malformed .trailingComma
      | _ => malformed .keyNotString
    else malformed .expectedObjectEnd

def endObject (chars : List Char) : Except ReadError (List Char) :=
  match skipBlanks chars with
  | [] => malformed .endOfObject
  | '\x7d' :: rest => .ok rest
  | ',' :: _ => malformed .trailingComma
  | _ => malformed .trailingCharacters

def colon (chars : List Char) : Except ReadError (List Char) :=
  match skipBlanks chars with
  | [] => malformed .endOfObject
  | ':' :: rest => .ok rest
  | _ => malformed .expectedColon

/-- The items of a list after its opening bracket. Each takes at least one character, so `fuel`
beyond their number is enough. -/
def items {α : Type} (item : Scan α) : Nat → Bool → Scan (List α)
  | 0, _, _ => malformed .endOfList
  | fuel + 1, first, chars => do
    match ← nextItem first chars with
    | none => .ok ([], ← endList chars)
    | some start =>
      let (value, rest) ← item start
      let (values, rest) ← items item fuel false rest
      .ok (value :: values, rest)

/-- The fields of an object after its opening brace, in text order. -/
def fields {α : Type} (value : Scan α) : Nat → Bool → Scan (List (String × α))
  | 0, _, _ => malformed .endOfObject
  | fuel + 1, first, chars => do
    match ← nextKey first chars with
    | none => .ok ([], ← endObject chars)
    | some start =>
      let (key, rest) ← string start
      let (fieldValue, rest) ← value (← colon rest)
      let (others, rest) ← fields value fuel false rest
      .ok ((key, fieldValue) :: others, rest)

end Scan

end Flowline.Json
