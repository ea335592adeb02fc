import Flowline.Text.CodePoints

/-!
Percent encoding: a character that may not stand for itself is written as the bytes of its UTF-8
form, each of them as `%` and two hexadecimal digits.
-/

namespace Flowline.Url

def hexCapital (value : Nat) : Char :=
  if value < 10 then Char.ofNat (0x30 + value) else Char.ofNat (0x37 + value)

def percentByte (byte : UInt8) : List Char :=
  ['%', hexCapital (byte.toNat / 16), hexCapital (byte.toNat % 16)]

def percentEncode (escapes : Char → Bool) (chars : List Char) : List Char :=
  chars.flatMap fun c =>
    if escapes c then (String.utf8EncodeChar c).flatMap percentByte else [c]

/-- The bytes that `chars` stands for; a `%` that no two digits follow stands for itself. -/
def percentDecode : List Char → List UInt8
  | '%' :: high :: low :: rest =>
    match Text.hexValue? high, Text.hexValue? low with
    | some h, some l => UInt8.ofNat (16 * h + l) :: percentDecode rest
    | _, _ => 0x25 :: percentDecode (high :: low :: rest)
  | c :: rest => String.utf8EncodeChar c ++ percentDecode rest
  | [] => []

/-! What is escaped in the parts of a URL. -/

def escapesAlways (c : Char) : Bool := c.toNat < 0x20 || 0x7E < c.toNat

def escapesInQuery (special : Bool) (c : Char) : Bool :=
  escapesAlways c || [' ', '"', '#', '<', '>'].contains c || (special && c == '\x27')

def escapesInFragment (c : Char) : Bool :=
  escapesAlways c || [' ', '"', '<', '>', '\x60'].contains c

def escapesInPath (c : Char) : Bool :=
  escapesInFragment c || ['#', '?', '^', '\x7b', '\x7d'].contains c

end Flowline.Url
