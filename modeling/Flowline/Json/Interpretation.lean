import Flowline.Decimal.Reading
import Flowline.Json.Basic
import Flowline.Text.Blank

/-!
Values taken for numbers and for truth values, and typed access to the fields of an object.
-/

namespace Flowline.Json

/-- Numbers, numbers written as text with blanks around them, and truth values as one and zero. -/
def toFloat? : Json → Option Float
  | .number value => some value.toFloat
  | .string text => Decimal.readFloat? (Text.trim text)
  | .bool value => some (Decimal.toFloat ⟨false, if value then 1 else 0, 0⟩)
  | _ => none

def isFalseWord (text : String) : Bool :=
  ["false", "0", "no", "off"].contains (String.ofList (text.toList.map Char.toLower))

/-- False are `null`, zero, everything empty, and the words for no, whatever their case. -/
def isTruthy : Json → Bool
  | .null => false
  | .bool value => value
  | .number value => Binary64.magnitude value.toFloat != 0
  | .string text => !(Text.isBlankText text || isFalseWord (Text.trim text))
  | .array items => !items.isEmpty
  | .object fields => !fields.isEmpty

namespace Object

def string? (values : Object) (key : String) : Option String :=
  (Entries.get? values key).bind Json.string?

def stringOr (values : Object) (key fallback : String) : String :=
  (string? values key).getD fallback

def boolOr (values : Object) (key : String) (fallback : Bool) : Bool :=
  ((Entries.get? values key).bind Json.bool?).getD fallback

def float? (values : Object) (key : String) : Option Float :=
  (Entries.get? values key).bind Json.toFloat?

def value? (values : Object) (key : String) : Option Json :=
  (Entries.get? values key).filter fun value => !value.isNull

def hasValue (values : Object) (key : String) : Bool := (value? values key).isSome

/-- The values of a configuration: `null` is an empty one, and what is no object is kept under
`value`. -/
def ofConfig : Json → Object
  | .null => []
  | .object fields => fields
  | other => [("value", other)]

@[simp] theorem ofConfig_null : ofConfig .null = [] := rfl

@[simp] theorem ofConfig_object (fields : Object) : ofConfig (.object fields) = fields := rfl

theorem ofConfig_of_plain {config : Json} (filled : config ≠ .null)
    (plain : ∀ fields, config ≠ .object fields) : ofConfig config = [("value", config)] := by
  cases config with
  | null => exact absurd rfl filled
  | object fields => exact absurd rfl (plain fields)
  | bool | number | string | array => rfl

/-- The values that a configuration gives: none, its fields, or all of it under `value`. -/
inductive ConfiguredBy : Object → Json → Prop
  | none : ConfiguredBy [] .null
  | fields (fields : Object) : ConfiguredBy fields (.object fields)
  | whole {config : Json} (filled : config ≠ .null) (plain : ∀ fields, config ≠ .object fields) :
      ConfiguredBy [("value", config)] config

theorem configuredBy_iff {values : Object} {config : Json} :
    ConfiguredBy values config ↔ values = ofConfig config := by
  constructor
  · intro configured
    cases configured with
    | none => exact ofConfig_null.symm
    | fields => exact (ofConfig_object values).symm
    | whole filled plain => exact (ofConfig_of_plain filled plain).symm
  · rintro rfl
    cases config with
    | null => exact .none
    | object fields => exact .fields fields
    | bool | number | string | array => exact .whole nofun nofun

end Object

end Flowline.Json
