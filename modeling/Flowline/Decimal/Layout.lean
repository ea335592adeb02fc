import Flowline.Decimal.Shortest

/-!
Layouts of a double as text: which leading exponents are written positionally, whether a whole
number keeps a point, and whether a positive exponent shows its sign.
-/

namespace Flowline.Decimal

/-- `positional` decides by the exponent of the leading digit. -/
structure Layout where
  positional : Int → Bool
  keepsPoint : Bool
  plusSign : Bool

namespace Layout

/-- Digits from `10 ^ -5` up to below `10 ^ 16` are written positionally, whole numbers end in
`.0`, and exponents always carry a sign. -/
def json : Layout where
  positional := fun leading => decide (-5 ≤ leading) && decide (leading < 16)
  keepsPoint := true
  plusSign := true

/-- No exponent at all, and no point after a whole number. -/
def plain : Layout where
  positional := fun _ => true
  keepsPoint := false
  plusSign := false

def positionalText (layout : Layout) (digits : List Char) (leading : Int) : List Char :=
  if leading < 0 then
    '0' :: '.' :: (List.replicate (-leading - 1).toNat '0' ++ digits)
  else
    let width := leading.toNat + 1
    let whole := digits.take width ++ List.replicate (width - digits.length) '0'
    let fraction := digits.drop width
    if !fraction.isEmpty then whole ++ '.' :: fraction
    else if layout.keepsPoint then whole ++ ['.', '0']
    else whole

def exponentText (layout : Layout) (digits : List Char) (leading : Int) : List Char :=
  let fraction := digits.drop 1
  let mantissa := digits.take 1 ++ (if fraction.isEmpty then [] else '.' :: fraction)
  let sign := if leading < 0 then ['-'] else if layout.plusSign then ['+'] else []
  mantissa ++ 'e' :: (sign ++ Nat.toDigits 10 leading.natAbs)

def magnitudeText (layout : Layout) (k : Nat) : List Char :=
  let (number, exponent) := shortest k
  let digits := Nat.toDigits 10 number
  let leading := exponent + digits.length - 1
  if layout.positional leading then layout.positionalText digits leading
  else layout.exponentText digits leading

def render (layout : Layout) (x : Float) : String :=
  if x.isNaN then "NaN"
  else
    let sign := if Binary64.isNegative x then ['-'] else []
    let k := Binary64.magnitude x
    String.ofList
      (sign ++ if k = Binary64.infinity then ['i', 'n', 'f'] else magnitudeText layout k)

end Layout

end Flowline.Decimal
