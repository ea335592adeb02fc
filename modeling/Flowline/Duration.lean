import Flowline.Decimal.Layout

/-!
Spans of time in whole nanoseconds, with fewer than `2 ^ 64` seconds.
-/

namespace Flowline

structure Duration where
  secs : Nat
  nanos : Nat
deriving DecidableEq

namespace Duration

def nanosPerSec : Nat := 1000000000

def ofSecs (secs : Nat) : Duration := ⟨secs, 0⟩

/-- `num / den` rounded to a natural number, a half going to the even neighbour. -/
def roundHalfEven (num den : Nat) : Nat :=
  let whole := num / den
  let rest := 2 * (num % den)
  if rest < den ∨ (rest = den ∧ whole % 2 = 0) then whole else whole + 1

/-- A number of seconds that is not negative, to the nearest nanosecond; nothing if it is too
large. -/
def ofFloat? (secs : Float) : Option Duration :=
  if secs.isNaN || Binary64.magnitude secs == Binary64.infinity then none
  else
    let nanos :=
      roundHalfEven (Binary64.scaled (Binary64.magnitude secs) * nanosPerSec) Binary64.scale
    if nanos / nanosPerSec < UInt64.size then some ⟨nanos / nanosPerSec, nanos % nanosPerSec⟩
    else none

def tooLongText (key : String) (secs : Float) : String :=
  key ++ " " ++ Decimal.Layout.plain.render secs ++
    ": cannot convert float seconds to Duration: value is either too big or NaN"

end Duration

end Flowline
