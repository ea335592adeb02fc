import Flowline.Decimal.Layout
import Flowline.Json.Basic

/-!
JSON text: `compact` without blanks, `pretty` with two spaces of indentation and a blank after each
colon. Quotes, backslashes and control characters are escaped and nothing else.
-/

namespace Flowline.Json

def escapedChar (c : Char) : String :=
  if c = '"' then "\\\""
  else if c = '\\' then "\\\\"
  else if c = '\n' then "\\n"
  else if c = '\t' then "\\t"
  else if c = '\x0d' then "\\r"
  else if c = '\x08' then "\\b"
  else if c = '\x0c' then "\\f"
  else if c.toNat < 0x20 then
    "\\u00" ++ String.ofList [Nat.digitChar (c.toNat / 16), Nat.digitChar (c.toNat % 16)]
  else c.toString

def escaped (text : String) : String :=
  "\"" ++ String.join (text.toList.map escapedChar) ++ "\""

def Number.text : Number → String
  | .integer value _ => value.repr
  | .real value _ => Decimal.Layout.json.render value

mutual

def compact : Json → String
  | .null => "null"
  | .bool true => "true"
  | .bool false => "false"
  | .number value => value.text
  | .string text => escaped text
  | .array items => "[" ++ compactItems items ++ "]"
  | .object fields => "\x7b" ++ compactFields fields ++ "\x7d"

def compactItems : List Json → String
  | [] => ""
  | [item] => compact item
  | item :: next :: rest => compact item ++ "," ++ compactItems (next :: rest)

def compactFields : List (String × Json) → String
  | [] => ""
  | [(key, value)] => escaped key ++ ":" ++ compact value
  | (key, value) :: next :: rest =>
    escaped key ++ ":" ++ compact value ++ "," ++ compactFields (next :: rest)

end

def lineStart (indent : Nat) : String := "\n" ++ String.ofList (List.replicate (2 * indent) ' ')

mutual

def prettyAt (indent : Nat) : Json → String
  | .null => "null"
  | .bool true => "true"
  | .bool false => "false"
  | .number value => value.text
  | .string text => escaped text
  | .array [] => "[]"
  | .array (item :: rest) =>
    "[" ++ prettyItems (indent + 1) (item :: rest) ++ lineStart indent ++ "]"
  | .object [] => "\x7b\x7d"
  | .object (field :: rest) =>
    "\x7b" ++ prettyFields (indent + 1) (field :: rest) ++ lineStart indent ++ "\x7d"

def prettyItems (indent : Nat) : List Json → String
  | [] => ""
  | [item] => lineStart indent ++ prettyAt indent item
  | item :: next :: rest =>
    lineStart indent ++ prettyAt indent item ++ "," ++ prettyItems indent (next :: rest)

def prettyFields (indent : Nat) : List (String × Json) → String
  | [] => ""
  | [(key, value)] => lineStart indent ++ escaped key ++ ": " ++ prettyAt indent value
  | (key, value) :: next :: rest =>
    lineStart indent ++ escaped key ++ ": " ++ prettyAt indent value ++ "," ++
      prettyFields indent (next :: rest)

end

def pretty (value : Json) : String := prettyAt 0 value

end Flowline.Json
