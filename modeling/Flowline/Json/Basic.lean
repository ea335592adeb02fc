import Flowline.Decimal.Basic
import Flowline.Entries

/-!
JSON values. A number is an integer of 64 bits, signed or unsigned, or a finite double; the fields
of an object are listed in ascending key order.
-/

namespace Flowline

inductive Json.Number where
  | integer (value : Int) (inRange : -0x8000000000000000 ≤ value ∧ value < 0x10000000000000000)
  | real (value : Float) (finite : value.isFinite = true)
deriving DecidableEq

inductive Json where
  | null
  | bool (value : Bool)
  | number (value : Json.Number)
  | string (text : String)
  | array (items : List Json)
  | object (fields : List (String × Json))

namespace Json

abbrev Object := Entries Json

mutual

def decEq : (left right : Json) → Decidable (left = right)
  | .null, .null => isTrue rfl
  | .bool a, .bool b => decidable_of_iff (a = b) (by simp)
  | .number a, .number b => decidable_of_iff (a = b) (by simp)
  | .string a, .string b => decidable_of_iff (a = b) (by simp)
  | .array a, .array b => @decidable_of_iff _ (a = b) (by simp) (decEqItems a b)
  | .object a, .object b => @decidable_of_iff _ (a = b) (by simp) (decEqFields a b)
  | .null, .bool _ | .null, .number _ | .null, .string _ | .null, .array _ | .null, .object _ =>
    isFalse (by simp)
  | .bool _, .null | .bool _, .number _ | .bool _, .string _ | .bool _, .array _
  | .bool _, .object _ => isFalse (by simp)
  | .number _, .null | .number _, .bool _ | .number _, .string _ | .number _, .array _
  | .number _, .object _ => isFalse (by simp)
  | .string _, .null | .string _, .bool _ | .string _, .number _ | .string _, .array _
  | .string _, .object _ => isFalse (by simp)
  | .array _, .null | .array _, .bool _ | .array _, .number _ | .array _, .string _
  | .array _, .object _ => isFalse (by simp)
  | .object _, .null | .object _, .bool _ | .object _, .number _ | .object _, .string _
  | .object _, .array _ => isFalse (by simp)

def decEqItems : (left right : List Json) → Decidable (left = right)
  | [], [] => isTrue rfl
  | [], _ :: _ => isFalse (by simp)
  | _ :: _, [] => isFalse (by simp)
  | a :: left, b :: right =>
    match decEq a b, decEqItems left right with
    | isTrue h, isTrue g => isTrue (by rw [h, g])
    | isFalse h, _ => isFalse (by simp [h])
    | _, isFalse g => isFalse (by simp [g])

def decEqFields : (left right : List (String × Json)) → Decidable (left = right)
  | [], [] => isTrue rfl
  | [], _ :: _ => isFalse (by simp)
  | _ :: _, [] => isFalse (by simp)
  | (k, a) :: left, (l, b) :: right =>
    match decEq a b, decEqFields left right with
    | isTrue h, isTrue g => if hk : k = l then isTrue (by rw [h, g, hk]) else isFalse (by simp [hk])
    | isFalse h, _ => isFalse (by simp [h])
    | _, isFalse g => isFalse (by simp [g])

end

instance : DecidableEq Json := decEq

namespace Number

def toFloat : Number → Float
  | .integer value _ => (Decimal.ofInt value).toFloat
  | .real value _ => value

end Number

/-- Integers beyond 64 bits have no exact number and become `null`. -/
def ofInt (value : Int) : Json :=
  if h : -0x8000000000000000 ≤ value ∧ value < 0x10000000000000000 then
    .number (.integer value h)
  else .null

def ofNat (value : Nat) : Json := ofInt value

/-- What is not finite has no number in JSON and becomes `null`. -/
def ofFloat (value : Float) : Json :=
  if h : value.isFinite = true then .number (.real value h) else .null

def isNull : Json → Bool
  | .null => true
  | _ => false

def string? : Json → Option String
  | .string text => some text
  | _ => none

def bool? : Json → Option Bool
  | .bool value => some value
  | _ => none

def object? : Json → Option Object
  | .object fields => some fields
  | _ => none

def field? (value : Json) (key : String) : Option Json :=
  value.object?.bind fun fields => Entries.get? fields key

def ofFields (fields : List (String × Json)) : Json := .object (Entries.ofList fields)

def strings (texts : List String) : Json := .array (texts.map .string)

/-- `null` for an absent value. -/
def ofOption : Option Json → Json
  | none => .null
  | some value => value

end Json

end Flowline
