import Flowline.Lookup
import Flowline.Pattern
import Flowline.Text.Case

/-!
Comparison of JSON values. Two values are compared as numbers if both are finite numbers or text
that reads as one, as truth values if both are such, and by their text otherwise.
-/

namespace Flowline

inductive Operator where
  | equals
  | notEquals
  | contains
  | startsWith
  | endsWith
  | regex
  | greaterThan
  | greaterOrEqual
  | lessThan
  | lessOrEqual
  | isEmpty
  | isNotEmpty
deriving DecidableEq

inductive OperatorError where
  | unknown (name : String)
  | invalidPattern (pattern : String) (error : Pattern.PatternError)
deriving DecidableEq

def invalidPatternText (pattern : String) (error : Pattern.PatternError) : String :=
  "Invalid regex '" ++ pattern ++ "': " ++ error.message pattern

namespace OperatorError

def message : OperatorError → String
  | .unknown name => "Unknown operator '" ++ name ++ "'"
  | .invalidPattern pattern error => invalidPatternText pattern error

def toRunError (error : OperatorError) : RunError := .failed error.message

end OperatorError

namespace Operator

def spellings : List (String × Operator) := [
  ("equals", .equals), ("==", .equals), ("eq", .equals),
  ("not_equals", .notEquals), ("!=", .notEquals), ("ne", .notEquals),
  ("contains", .contains), ("starts_with", .startsWith), ("ends_with", .endsWith),
  ("regex", .regex), ("matches", .regex),
  (">", .greaterThan), ("gt", .greaterThan), ("greater_than", .greaterThan),
  (">=", .greaterOrEqual), ("gte", .greaterOrEqual),
  ("<", .lessThan), ("lt", .lessThan), ("less_than", .lessThan),
  ("<=", .lessOrEqual), ("lte", .lessOrEqual),
  ("is_empty", .isEmpty), ("is_not_empty", .isNotEmpty)]

def ofName (name : String) : Except OperatorError Operator :=
  match Entries.get? spellings name with
  | some operator => .ok operator
  | none => .error (.unknown name)

def title : Operator → String
  | .equals => "Equals"
  | .notEquals => "NotEquals"
  | .contains => "Contains"
  | .startsWith => "StartsWith"
  | .endsWith => "EndsWith"
  | .regex => "Regex"
  | .greaterThan => "GreaterThan"
  | .greaterOrEqual => "GreaterOrEqual"
  | .lessThan => "LessThan"
  | .lessOrEqual => "LessOrEqual"
  | .isEmpty => "IsEmpty"
  | .isNotEmpty => "IsNotEmpty"

def isTextual : Operator → Bool
  | .equals | .notEquals | .contains | .startsWith | .endsWith | .regex => true
  | _ => false

def folded (caseSensitive : Bool) (text : String) : String :=
  if caseSensitive then text else Text.lowercase text

def compareText (left right : String) (caseSensitive : Bool) : Ordering :=
  compare (folded caseSensitive left) (folded caseSensitive right)

/-- The number that takes part in a comparison. -/
def finiteNumber? : Json → Option Float
  | .bool _ => none
  | other => other.toFloat?.filter Float.isFinite

/-- The order of two values, if they are ordered. -/
def compareValues (left right : Json) (caseSensitive : Bool) : Option Ordering :=
  match finiteNumber? left, finiteNumber? right with
  | some a, some b => Binary64.partialCompare a b
  | _, _ =>
    match left, right with
    | .bool a, .bool b => some (compare a.toNat b.toNat)
    | _, _ => some (compareText left.plainText right.plainText caseSensitive)

def isBlank : Json → Bool
  | .null => true
  | .string text => Text.isBlankText text
  | .array items => items.isEmpty
  | .object fields => fields.isEmpty
  | _ => false

def occursIn (part : List Char) : List Char → Bool
  | [] => part.isEmpty
  | c :: rest => part.isPrefixOf (c :: rest) || occursIn part rest

/-- Whether a list has an item with the text of `right`, or else whether a text contains it. -/
def containsValue (left right : Json) (caseSensitive : Bool) : Bool :=
  let text (value : Json) : String := folded caseSensitive value.plainText
  match left with
  | .array items => items.any fun item => text item == text right
  | other => occursIn (text right).toList (text other).toList

def matchesPattern (left right : Json) (caseSensitive : Bool) : Except OperatorError Bool :=
  let pattern := right.plainText
  match Pattern.compile pattern (if caseSensitive then "" else "i") with
  | .error error => .error (.invalidPattern pattern error)
  | .ok compiled => .ok (compiled.isMatch left.plainText)

def evaluate (operator : Operator) (left right : Json) (caseSensitive : Bool) :
    Except OperatorError Bool :=
  let text (value : Json) : List Char := (folded caseSensitive value.plainText).toList
  let order := compareValues left right caseSensitive
  match operator with
  | .equals => .ok (order == some .eq)
  | .notEquals => .ok (order != some .eq)
  | .contains => .ok (containsValue left right caseSensitive)
  | .startsWith => .ok ((text right).isPrefixOf (text left))
  | .endsWith => .ok ((text right).isSuffixOf (text left))
  | .regex => matchesPattern left right caseSensitive
  | .greaterThan => .ok (order == some .gt)
  | .greaterOrEqual => .ok (order == some .gt || order == some .eq)
  | .lessThan => .ok (order == some .lt)
  | .lessOrEqual => .ok (order == some .lt || order == some .eq)
  | .isEmpty => .ok (isBlank left)
  | .isNotEmpty => .ok (!isBlank left)

/-- Compares two texts as such, even if they read as numbers. -/
def evaluateText (operator : Operator) (left right : String) (caseSensitive : Bool) :
    Except OperatorError Bool :=
  match operator with
  | .equals => .ok (compareText left right caseSensitive == .eq)
  | .notEquals => .ok (compareText left right caseSensitive != .eq)
  | _ => operator.evaluate (.string left) (.string right) caseSensitive

end Operator

end Flowline
