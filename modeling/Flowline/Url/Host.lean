import Flowline.Text.Case
import Flowline.Url.Percent
import Flowline.Url.Punycode

/-!
Hosts: names and addresses. Names that people type are brought to ASCII and small letters; a name
whose last label is a number is an IPv4 address.
-/

namespace Flowline.Url

/-- An IPv6 address has eight pieces of 16 bits. -/
inductive Host where
  | name (name : String)
  | ipv4 (address : Nat)
  | ipv6 (pieces : List Nat)
deriving DecidableEq

def splitAt (separates : Char → Bool) : List Char → List (List Char)
  | [] => [[]]
  | c :: rest =>
    match separates c, splitAt separates rest with
    | true, parts => [] :: parts
    | false, part :: parts => (c :: part) :: parts
    | false, [] => [[c]]

/-- A number in base `radix`, zero if there are no digits. -/
def digits? (radix : Nat) (chars : List Char) : Option Nat :=
  chars.foldlM (fun value c =>
    ((Text.hexValue? c).filter (· < radix)).map (radix * value + ·)) 0

namespace Host

/-! IPv4. -/

/-- Hexadecimal after `0x`, octal after another `0`, else decimal. -/
def ipv4Part? : List Char → Option Nat
  | [] => none
  | '0' :: 'x' :: digits | '0' :: 'X' :: digits => digits? 16 digits
  | '0' :: digits => digits? 8 digits
  | digits => digits? 10 digits

def dropFinalDot (parts : List (List Char)) : List (List Char) :=
  if 1 < parts.length ∧ parts.getLast? = some [] then parts.dropLast else parts

def endsInNumber (parts : List (List Char)) : Bool :=
  match (dropFinalDot parts).getLast? with
  | none | some [] => false
  | some last => last.all Char.isDigit || (ipv4Part? last).isSome

/-- The last part stands for all bytes that the parts before it leave. -/
def ipv4Address? : Nat → List Nat → Option Nat
  | _, [] => none
  | free, [last] => if last < Nat.pow 256 free then some last else none
  | free, part :: rest => do
    if part < 256 then
      let address ← ipv4Address? (free - 1) rest
      some (part * Nat.pow 256 (free - 1) + address)
    else none

def ipv4? (parts : List (List Char)) : Option Host := do
  let parts := dropFinalDot parts
  if parts.length ≤ 4 then
    let numbers ← parts.mapM ipv4Part?
    (ipv4Address? 4 numbers).map .ipv4
  else none

/-! IPv6. -/

def piece? (group : List Char) : Option Nat :=
  if group.isEmpty ∨ 4 < group.length then none else digits? 16 group

/-- One of the four numbers of an IPv4 address within an IPv6 address. -/
def byte? (group : List Char) : Option Nat :=
  if group.isEmpty ∨ 3 < group.length ∨ (1 < group.length ∧ group.head? = some '0') then none
  else (digits? 10 group).filter (· < 256)

def lastPieces? (group : List Char) : Option (List Nat) :=
  if group.contains '.' then
    match (splitAt (· == '.') group).mapM byte? with
    | some [a, b, c, d] => some [256 * a + b, 256 * c + d]
    | _ => none
  else (piece? group).map fun piece => [piece]

def pieces? : List (List Char) → Option (List Nat)
  | [] => some []
  | [last] => lastPieces? last
  | group :: rest => do
    let piece ← piece? group
    let pieces ← pieces? rest
    some (piece :: pieces)

def splitGap : List Char → Option (List Char × List Char)
  | ':' :: ':' :: rest => some ([], rest)
  | c :: rest => (splitGap rest).map fun parts => (c :: parts.1, parts.2)
  | [] => none

def groups (chars : List Char) : List (List Char) :=
  if chars.isEmpty then [] else splitAt (· == ':') chars

def ipv6? (chars : List Char) : Option Host := do
  match splitGap chars with
  | none =>
    let pieces ← pieces? (groups chars)
    if pieces.length = 8 then some (.ipv6 pieces) else none
  | some (before, after) =>
    let before ← (groups before).mapM piece?
    let after ← pieces? (groups after)
    let gap := 8 - before.length - after.length
    if 0 < gap then some (.ipv6 (before ++ List.replicate gap 0 ++ after)) else none

/-! Names. -/

def isForbidden (c : Char) : Bool :=
  ['\x00', '\t', '\n', '\r', ' ', '#', '/', ':', '<', '>', '?', '@', '[', '\\', ']', '^', '|']
    |>.contains c

def isForbiddenInDomain (c : Char) : Bool :=
  isForbidden c || decide (c.toNat < 0x20) || c == '%' || c == '\x7f'

def isDot (c : Char) : Bool :=
  c == '.' || c == '\u3002' || c == '\uff0e' || c == '\uff61'

def asciiLabel (label : List Char) : List Char :=
  if label.all Punycode.isBasic then label else "xn--".toList ++ Punycode.encode label

def domain? (chars : List Char) : Option Host := do
  let text ← String.fromUTF8? ⟨(percentDecode chars).toArray⟩
  let labels := (splitAt isDot (Text.lowercaseList text.toList)).map asciiLabel
  if labels = [[]] ∨ labels.flatten.any isForbiddenInDomain then none
  else if endsInNumber labels then ipv4? labels
  else some (.name (".".intercalate (labels.map String.ofList)))

/-- A host as it stands in a URL; `special` says whether names are domains. -/
def read? (special : Bool) (chars : List Char) : Option Host :=
  match chars with
  | '[' :: rest =>
    if rest.getLast? = some ']' then ipv6? rest.dropLast else none
  | _ =>
    if special then domain? chars
    else if chars.any isForbidden then none
    else some (.name (String.ofList (percentEncode escapesAlways chars)))

/-! Writing. -/

def ipv4Text (address : Nat) : String :=
  ".".intercalate ([24, 16, 8, 0].map fun shift => (address >>> shift % 256).repr)

def pieceText (piece : Nat) : String := String.ofList (Nat.toDigits 16 piece)

def zeros (pieces : List Nat) : Nat := (pieces.takeWhile (· = 0)).length

/-- The place and length of the first of the longest runs of zeros. -/
def longestGap : Nat → List Nat → Nat × Nat
  | _, [] => (0, 0)
  | place, piece :: rest =>
    let later := longestGap (place + 1) rest
    let here := zeros (piece :: rest)
    if later.2 ≤ here then (place, here) else later

/-- The longest run of two or more zeros is left out. -/
def ipv6Text (pieces : List Nat) : String :=
  let write (pieces : List Nat) : String := ":".intercalate (pieces.map pieceText)
  let (place, length) := longestGap 0 pieces
  if length < 2 then write pieces
  else write (pieces.take place) ++ "::" ++ write (pieces.drop (place + length))

def text : Host → String
  | .name domain => domain
  | .ipv4 address => ipv4Text address
  | .ipv6 pieces => "[" ++ ipv6Text pieces ++ "]"

end Host

end Flowline.Url
