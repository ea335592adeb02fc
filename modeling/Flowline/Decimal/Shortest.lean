import Flowline.Decimal.Basic

/-!
The fewest digits that read back as a given double, and among those the digits nearest to it. For
one digit, two digits and so on, the two neighbours of the number on that decimal grid are tried;
should none read back, the exact expansion stands.
-/

namespace Flowline.Decimal

/-- How often `num` is to be multiplied by ten to reach `den`, at most `fuel` times. -/
def tenfolds : Nat → Nat → Nat → Nat
  | 0, _, _ => 0
  | fuel + 1, num, den => if den ≤ num then 0 else tenfolds fuel (10 * num) den + 1

def leadingExponent (num den : Nat) : Int :=
  if den ≤ num then (digitCount (num / den) : Int) - 1 else -(tenfolds 400 num den : Int)

def readsBack (k digits : Nat) (exponent : Int) : Bool :=
  if 0 ≤ exponent then Binary64.roundsTo (digits * Nat.pow 10 exponent.toNat) 1 k
  else Binary64.roundsTo digits (Nat.pow 10 (-exponent).toNat) k

/-- The better neighbour of `num / den`, the value of magnitude `k`, among the multiples of
`10 ^ exponent` that read back; an exact tie goes to the even one. -/
def onGrid? (k num den : Nat) (exponent : Int) : Option Nat :=
  let num := num * Nat.pow 10 (-exponent).toNat
  let den := den * Nat.pow 10 exponent.toNat
  let low := num / den
  let high := low + 1
  let rest := 2 * (num % den)
  let preferLow := decide (rest < den) || (rest == den && low % 2 == 0)
  match readsBack k low exponent, readsBack k high exponent with
  | true, true => some (if preferLow then low else high)
  | true, false => some low
  | false, true => some high
  | false, false => none

def shortestFrom (k num den : Nat) (leading : Int) : Nat → Nat → Option (Nat × Int)
  | 0, _ => none
  | fuel + 1, count =>
    let exponent := leading - count + 1
    match onGrid? k num den exponent with
    | some digits => some (digits, exponent)
    | none => shortestFrom k num den leading fuel (count + 1)

/-- Digits and exponent for a finite magnitude; zero is the digit zero. A number just below a power
of ten can read back from that power, which the grid of one digit offers as ten. -/
def shortest (k : Nat) : Nat × Int :=
  if k = 0 then (0, 0)
  else
    let num := Binary64.scaled k
    let den := Binary64.scale
    match shortestFrom k num den (leadingExponent num den) 17 1 with
    | some (digits, exponent) => if digits = 10 then (1, exponent + 1) else (digits, exponent)
    | none => (num * Nat.pow 5 1074, -1074)

end Flowline.Decimal
