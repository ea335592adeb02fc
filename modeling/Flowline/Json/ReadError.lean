import Flowline.Json.Printer
import Flowline.Text.Quoted

/-!
Why JSON is refused: the text is malformed, or a value does not have the shape that is asked for.
-/

namespace Flowline.Json

inductive SyntaxError where
  | endOfValue
  | endOfList
  | endOfObject
  | endOfString
  | expectedColon
  | expectedListEnd
  | expectedObjectEnd
  | expectedWord
  | expectedValue
  | invalidEscape
  | invalidNumber
  | numberOutOfRange
  | controlCharacter
  | keyNotString
  | loneSurrogate
  | unfinishedSurrogate
  | trailingComma
  | trailingCharacters
  | tooDeep
deriving DecidableEq

def SyntaxError.message : SyntaxError → String
  | .endOfValue => "EOF while parsing a value"
  | .endOfList => "EOF while parsing a list"
  | .endOfObject => "EOF while parsing an object"
  | .endOfString => "EOF while parsing a string"
  | .expectedColon => "expected `:`"
  | .expectedListEnd => "expected `,` or `]`"
  | .expectedObjectEnd => "expected `,` or `\x7d`"
  | .expectedWord => "expected ident"
  | .expectedValue => "expected value"
  | .invalidEscape => "invalid escape"
  | .invalidNumber => "invalid number"
  | .numberOutOfRange => "number out of range"
  | .controlCharacter =>
    "control character (\\u0000-\\u001F) found while parsing a string"
  | .keyNotString => "key must be a string"
  | .loneSurrogate => "lone leading surrogate in hex escape"
  | .unfinishedSurrogate => "unexpected end of hex escape"
  | .trailingComma => "trailing comma"
  | .trailingCharacters => "trailing characters"
  | .tooDeep => "recursion limit exceeded"

/-- What stands where something else was expected. -/
inductive Found where
  | null
  | bool (value : Bool)
  | integer (value : Int)
  | real (value : Float)
  | string (text : String)
  | sequence
  | map
deriving DecidableEq

namespace Found

def describe : Found → String
  | .null => "null"
  | .bool true => "boolean `true`"
  | .bool false => "boolean `false`"
  | .integer value => "integer `" ++ value.repr ++ "`"
  | .real value => "floating point `" ++ Decimal.Layout.json.render value ++ "`"
  | .string text => "string " ++ Text.quoted text
  | .sequence => "sequence"
  | .map => "map"

def ofNumber : Number → Found
  | .integer value _ => .integer value
  | .real value _ => .real value

def ofJson : Json → Found
  | .null => .null
  | .bool value => .bool value
  | .number value => ofNumber value
  | .string text => .string text
  | .array _ => .sequence
  | .object _ => .map

end Found

inductive ReadError where
  | malformed (error : SyntaxError)
  | invalidType (found : Found) (expected : String)
  | invalidValue (found : Found) (expected : String)
  | invalidLength (length : Nat) (expected : String)
  | unknownVariant (name : String) (known : List String)
  | missingField (name : String)
  | duplicateField (name : String)
deriving DecidableEq

def inBackticks (name : String) : String := "`" ++ name ++ "`"

/-- Two names are joined by `or`, more are listed. -/
def knownNames : List String → String
  | [] => "there are no variants"
  | [one] => "expected " ++ inBackticks one
  | [one, two] => "expected " ++ inBackticks one ++ " or " ++ inBackticks two
  | many => "expected one of " ++ ", ".intercalate (many.map inBackticks)

def ReadError.message : ReadError → String
  | .malformed error => error.message
  | .invalidType found expected => "invalid type: " ++ found.describe ++ ", expected " ++ expected
  | .invalidValue found expected =>
    "invalid value: " ++ found.describe ++ ", expected " ++ expected
  | .invalidLength length expected =>
    "invalid length " ++ length.repr ++ ", expected " ++ expected
  | .unknownVariant name known =>
    "unknown variant " ++ inBackticks name ++ ", " ++ knownNames known
  | .missingField name => "missing field " ++ inBackticks name
  | .duplicateField name => "duplicate field " ++ inBackticks name

end Flowline.Json
