import Flowline.Decimal.Basic

/-!
Numbers in text: an optional sign, then digits with an optional point and an optional exponent, or
one of the words `inf`, `infinity` and `nan` in any case. At least one digit stands before the
exponent, and at least one after its mark.
-/

namespace Flowline.Decimal

def digitsValue (digits : List Char) : Nat :=
  digits.foldl (fun value c => 10 * value + (c.toNat - 0x30)) 0

/-- Splits off a sign; `true` stands for a minus. -/
def splitSign : List Char → Bool × List Char
  | '-' :: rest => (true, rest)
  | '+' :: rest => (false, rest)
  | chars => (false, chars)

/-- The exponent that fills the rest of a number: nothing, or a mark, a sign and digits. -/
def readExponent? : List Char → Option Int
  | [] => some 0
  | mark :: rest =>
    if mark = 'e' ∨ mark = 'E' then
      let (negative, digits) := splitSign rest
      if digits.isEmpty || !digits.all Char.isDigit then none
      else some (if negative then -(digitsValue digits : Int) else digitsValue digits)
    else none

def readUnsigned? (negative : Bool) (chars : List Char) : Option Decimal :=
  let whole := chars.takeWhile Char.isDigit
  let afterWhole := chars.dropWhile Char.isDigit
  let (fraction, afterFraction) :=
    match afterWhole with
    | '.' :: rest => (rest.takeWhile Char.isDigit, rest.dropWhile Char.isDigit)
    | _ => ([], afterWhole)
  if whole.isEmpty && fraction.isEmpty then none
  else (readExponent? afterFraction).map fun exponent =>
    ⟨negative, digitsValue (whole ++ fraction), exponent - fraction.length⟩

def readFloat? (text : String) : Option Float :=
  let (negative, chars) := splitSign text.toList
  match readUnsigned? negative chars with
  | some decimal => some decimal.toFloat
  | none =>
    let word := String.ofList (chars.map Char.toLower)
    if word = "inf" ∨ word = "infinity" then
      some (Binary64.ofMagnitude negative Binary64.infinity)
    else if word = "nan" then some Binary64.nan
    else none

end Flowline.Decimal
