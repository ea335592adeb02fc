import Flowline.Decimal.Binary64

/-!
Decimal numbers `± digits · 10 ^ exponent` and the double nearest to one.
-/

namespace Flowline

structure Decimal where
  negative : Bool
  digits : Nat
  exponent : Int

namespace Decimal

def digitCount (n : Nat) : Nat := (Nat.toDigits 10 n).length

/-- No finite double reaches `10 ^ 400`, and what is below `10 ^ -400` rounds to zero. -/
def nearestMagnitude (d : Decimal) : Nat :=
  if d.digits = 0 then 0
  else if 0 ≤ d.exponent then
    if 400 < d.exponent then Binary64.infinity
    else Binary64.nearest (d.digits * Nat.pow 10 d.exponent.toNat) 1
  else if d.exponent + digitCount d.digits < -400 then 0
  else Binary64.nearest d.digits (Nat.pow 10 (-d.exponent).toNat)

def toFloat (d : Decimal) : Float := Binary64.ofMagnitude d.negative d.nearestMagnitude

def ofInt (value : Int) : Decimal := ⟨decide (value < 0), value.natAbs, 0⟩

end Decimal

end Flowline
