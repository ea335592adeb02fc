/-!
Double precision seen from its magnitudes, counted upwards from zero: magnitude `k` stands for the
number `scaled k / scale`. A positive fraction is rounded by counting the points halfway between
neighbouring magnitudes that lie below it; a halfway point itself belongs to the even neighbour.
-/

namespace Flowline.Binary64

/-- The count of the magnitudes that share an exponent. -/
def binade : Nat := 1 <<< 52

/-- The count of the finite magnitudes, which is the magnitude of infinity. -/
def infinity : Nat := 2047 * binade

def scale : Nat := 1 <<< 1074

def scaled (k : Nat) : Nat :=
  if k < binade then k else (binade + k % binade) <<< (k / binade - 1)

def passes (num den k : Nat) : Bool :=
  let halfway := (scaled k + scaled (k + 1)) * den
  let target := num * (2 * scale)
  decide (k < infinity) && (decide (halfway < target) || (halfway == target && k % 2 == 1))

def roundsTo (num den k : Nat) : Bool :=
  !passes num den k && (k == 0 || passes num den (k - 1))

/-- The number of `k` that pass, given that `base` of them do, that they form an initial segment,
and that they are fewer than `base + 2 ^ bits`. -/
def countPassing (pass : Nat → Bool) : Nat → Nat → Nat
  | 0, base => base
  | bits + 1, base =>
    if pass (base + 1 <<< bits - 1) then countPassing pass bits (base + 1 <<< bits)
    else countPassing pass bits base

def nearest (num den : Nat) : Nat := countPassing (passes num den) 63 0

def signBit : Nat := 1 <<< 63

def ofMagnitude (negative : Bool) (k : Nat) : Float :=
  Float.ofBits (UInt64.ofNat (if negative then signBit + k else k))

def magnitude (x : Float) : Nat := x.toBits.toNat % signBit

def isNegative (x : Float) : Bool := decide (signBit ≤ x.toBits.toNat)

/-- Ascends with the number, and is the same for both zeros. -/
def orderKey (x : Float) : Int := if isNegative x then -(magnitude x : Int) else magnitude x

/-- The order of two doubles by their numbers, if both are numbers. -/
def partialCompare (a b : Float) : Option Ordering :=
  match decide (a ≤ b), decide (b ≤ a) with
  | false, false => none
  | false, true => some .gt
  | true, false => some .lt
  | true, true => some .eq

def nan : Float := Float.ofBits 0x7FF8000000000000

/-- The largest natural number up to `x`, at most `limit`; zero for what is not positive. -/
def floorUpTo (limit : Nat) (x : Float) : Nat :=
  if isNegative x || x.isNaN then 0
  else if magnitude x == infinity then limit
  else min limit (scaled (magnitude x) / scale)

/-- What is left of `x` after taking away multiples of `y` towards zero. -/
def remainder (x y : Float) : Float :=
  if x.isNaN || y.isNaN || magnitude x == infinity || magnitude y == 0 then nan
  else if magnitude y == infinity then x
  else ofMagnitude (isNegative x) (nearest (scaled (magnitude x) % scaled (magnitude y)) scale)

end Flowline.Binary64
