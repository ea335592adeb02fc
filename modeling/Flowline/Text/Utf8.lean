/-!
UTF-8 by ranges of bytes. A range of characters is taken apart into sequences of byte ranges, each
of which stands for the characters whose bytes lie in its ranges one by one.
-/

namespace Flowline.Text

abbrev ByteSequence := List (Nat × Nat)

namespace Utf8

/-- The sequences for the numbers from `low` to `high`, written in `count` continuation bytes of six
bits each behind a first byte, to which `lead` is added. -/
def sequences : Nat → Nat → Nat → Nat → List ByteSequence
  | 0, lead, low, high => [[(lead + low, lead + high)]]
  | count + 1, lead, low, high =>
    let unit := Nat.pow 64 (count + 1)
    let first := low / unit
    let last := high / unit
    let within (digit low high : Nat) : List ByteSequence :=
      (sequences count 0x80 low high).map fun rest => (lead + digit, lead + digit) :: rest
    if first = last then within first (low % unit) (high % unit)
    else
      let cutLow := low % unit != 0
      let cutHigh := high % unit != unit - 1
      let wholeFirst := if cutLow then first + 1 else first
      let wholeEnd := if cutHigh then last else last + 1
      let whole :=
        if wholeFirst < wholeEnd then
          [(lead + wholeFirst, lead + wholeEnd - 1) :: List.replicate (count + 1) (0x80, 0xBF)]
        else []
      (if cutLow then within first (low % unit) (unit - 1) else []) ++ whole ++
        (if cutHigh then within last 0 (high % unit) else [])

/-- How many continuation bytes characters have, their first byte, and from which character to which
this holds. -/
def lengths : List (Nat × Nat × Nat × Nat) :=
  [(0, 0, 0, 0x7F), (1, 0xC0, 0x80, 0x7FF), (2, 0xE0, 0x800, 0xD7FF), (2, 0xE0, 0xE000, 0xFFFF),
    (3, 0xF0, 0x10000, 0x10FFFF)]

def ofRange (low high : Nat) : List ByteSequence :=
  lengths.flatMap fun (count, lead, least, greatest) =>
    let low := max low least
    let high := min high greatest
    if low ≤ high then sequences count lead low high else []

/-- The sequences by their first ranges, of which equal ones follow one another. -/
def branches : List ByteSequence → List ((Nat × Nat) × List ByteSequence)
  | [] => []
  | [] :: rest => branches rest
  | (range :: tail) :: rest =>
    match branches rest with
    | [] => [(range, [tail])]
    | (next, tails) :: others =>
      if next = range then (range, tail :: tails) :: others
      else (range, [tail]) :: (next, tails) :: others

end Utf8

end Flowline.Text
