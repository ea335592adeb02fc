import Flowline.Text.InvisibleTable

/-!
Quoted text: the quote and the backslash are escaped, and a character that does not show on its own
is written by name or by number.
-/

namespace Flowline.Text

def hexText (n : Nat) : String := String.ofList (Nat.toDigits 16 n)

def quotedChar (c : Char) : String :=
  if c = '\x00' then "\\0"
  else if c = '\t' then "\\t"
  else if c = '\n' then "\\n"
  else if c = '\x0d' then "\\r"
  else if c = '"' then "\\\""
  else if c = '\\' then "\\\\"
  else if invisibleCodePoints.contains c then "\\u\x7b" ++ hexText c.toNat ++ "\x7d"
  else c.toString

def quoted (text : String) : String :=
  "\"" ++ String.join (text.toList.map quotedChar) ++ "\""

/-- Paths have their apostrophes escaped as well. -/
def quotedPath (path : String) : String :=
  let write (c : Char) : String := if c = '\x27' then "\\'" else quotedChar c
  "\"" ++ String.join (path.toList.map write) ++ "\""

end Flowline.Text
