/-!
Punycode, which writes a label with any characters in ASCII: first its ASCII characters as they are,
then where the others stand, in the order of their code points, each place as its distance from the
one before. A distance is a number of base 36 with digits of changing weight.
-/

namespace Flowline.Url.Punycode

def digit (value : Nat) : Char :=
  if value < 26 then Char.ofNat (0x61 + value) else Char.ofNat (0x16 + value)

/-- The least value of the digit at `place` that is followed by another one. -/
def threshold (place bias : Nat) : Nat := max 1 (min 26 (place - bias))

theorem threshold_pos (place bias : Nat) : 1 ≤ threshold place bias := Nat.le_max_left 1 _

theorem threshold_le (place bias : Nat) : threshold place bias ≤ 26 := by
  unfold threshold; omega

/-- The digits of `distance` from `place` on, the least significant one first. -/
def digits (bias place distance : Nat) : List Char :=
  let t := threshold place bias
  if distance < t then [digit distance]
  else digit (t + (distance - t) % (36 - t)) ::
    digits bias (place + 36) ((distance - t) / (36 - t))
termination_by distance
decreasing_by
  have := threshold_pos place bias
  have := threshold_le place bias
  exact Nat.lt_of_le_of_lt (Nat.div_le_self _ _) (by omega)

def settle (distance bias : Nat) : Nat :=
  if 455 < distance then settle (distance / 35) (bias + 36)
  else bias + 36 * distance / (distance + 38)
termination_by distance
decreasing_by exact Nat.div_lt_self (by omega) (by omega)

/-- The bias after a distance was written as the `count`-th character of the label. -/
def nextBias (distance count : Nat) (first : Bool) : Nat :=
  let scaled := if first then distance / 700 else distance / 2
  settle (scaled + scaled / count) 0

/-- `written` characters are in place, and `distance` has been passed since the last one. -/
structure Progress where
  written : Nat
  distance : Nat := 0
  bias : Nat := 72
  output : List Char := []

/-- Passes a character while those with the given code point are put in place. -/
def pass (code basic : Nat) (progress : Progress) (c : Char) : Progress :=
  if c.toNat < code then { progress with distance := progress.distance + 1 }
  else if c.toNat = code then
    { written := progress.written + 1
      bias := nextBias progress.distance (progress.written + 1) (progress.written = basic)
      output := progress.output ++ digits progress.bias 36 progress.distance }
  else progress

/-- Puts the given code points in place, which ascend from `least`. -/
def placeAll (label : List Char) (basic : Nat) : Nat → List Nat → Progress → Progress
  | _, [], progress => progress
  | least, code :: rest, progress =>
    let start :=
      { progress with distance := progress.distance + (code - least) * (progress.written + 1) }
    let placed := label.foldl (pass code basic) start
    placeAll label basic (code + 1) rest { placed with distance := placed.distance + 1 }

def isBasic (c : Char) : Bool := decide (c.toNat < 0x80)

def encode (label : List Char) : List Char :=
  let basic := label.filter isBasic
  let codes := ((label.filter (!isBasic ·)).map Char.toNat).eraseDups.mergeSort
  let placed := placeAll label basic.length 0x80 codes { written := basic.length }
  (if basic.isEmpty then [] else basic ++ ['-']) ++ placed.output

end Flowline.Url.Punycode
