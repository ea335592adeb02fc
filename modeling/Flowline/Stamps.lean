import Flowline.Json.Basic

/-!
What a run takes from its surroundings: fresh ids, the time of day, and the time that has passed.
They mark what is reported and decide nothing.
-/

namespace Flowline

/-- A reading of a clock, as it is written out. -/
abbrev Timestamp := String

structure Stamps where
  id : String
  timestamp : Timestamp
  created : Json
  elapsedMs : Nat

/-- Stamps that name what stands in their place. -/
def Stamps.placeholder : Stamps where
  id := "<id>"
  timestamp := "<timestamp>"
  created := .string "<created>"
  elapsedMs := 0

end Flowline
