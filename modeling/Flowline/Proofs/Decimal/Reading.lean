import Flowline.Proofs.Decimal.Binary64
import Flowline.Proofs.Decimal.Value
import Flowline.Json.Printer
import Flowline.Json.Interpretation

/-!
Numbers that are written as JSON read back. What a layout puts between the digits of a number is
taken out again by the reader, up to a zero behind the point of a whole number, and the digits are
those chosen for its magnitude.
-/

namespace Flowline

namespace Decimal

section Digits

variable {digits : List Char}

theorem digitsValue_eq (digits : List Char) : digitsValue digits = Nat.ofDigitChars 10 digits 0 :=
  Nat.ofDigitChars_eq_foldl.symm

theorem digitsValue_toDigits (n : Nat) : digitsValue (Nat.toDigits 10 n) = n := by
  rw [digitsValue_eq, Nat.ofDigitChars_ten_toDigits]

theorem digitsValue_zeros (zeros : Nat) (digits : List Char) :
    digitsValue (List.replicate zeros '0' ++ digits) = digitsValue digits := by
  rw [digitsValue_eq, digitsValue_eq, Nat.ofDigitChars_append, Nat.ofDigitChars_replicate_zero,
    Nat.mul_zero]

theorem digitsValue_append_zeros (digits : List Char) (zeros : Nat) :
    digitsValue (digits ++ List.replicate zeros '0') = digitsValue digits * 10 ^ zeros := by
  rw [digitsValue_eq, digitsValue_eq, Nat.ofDigitChars_append, Nat.ofDigitChars_replicate_zero,
    Nat.mul_comm]

theorem isDigit_toDigits (n : Nat) : ∀ c ∈ Nat.toDigits 10 n, c.isDigit = true := fun _ =>
  Nat.isDigit_of_mem_toDigits (by decide) (by decide)

end Digits

section Reader

variable {negative : Bool} {whole fraction rest : List Char}

/-- Digits are read up to what is no digit. -/
theorem span_digits (digits : ∀ c ∈ whole, c.isDigit = true)
    (ended : ∀ c ∈ rest.head?, c.isDigit = false) :
    (whole ++ rest).takeWhile Char.isDigit = whole ∧
      (whole ++ rest).dropWhile Char.isDigit = rest := by
  rw [List.takeWhile_append_of_pos digits, List.dropWhile_append_of_pos digits]
  cases rest with
  | nil => simp
  | cons c chars =>
      have other := ended c rfl
      simp [other]

theorem readUnsigned?_whole (filled : whole ≠ []) (digits : ∀ c ∈ whole, c.isDigit = true)
    (ended : ∀ c ∈ rest.head?, c.isDigit = false ∧ c ≠ '.') :
    readUnsigned? negative (whole ++ rest) =
      (readExponent? rest).map fun exponent => ⟨negative, digitsValue whole, exponent⟩ := by
  obtain ⟨taken, left⟩ := span_digits digits fun c first => (ended c first).1
  rw [readUnsigned?, taken, left]
  cases rest with
  | nil => simp [filled, readExponent?]
  | cons c chars =>
      have apart := (ended c rfl).2
      simp [filled, apart]

theorem readUnsigned?_point (filled : whole ≠ []) (digits : ∀ c ∈ whole, c.isDigit = true)
    (fractional : ∀ c ∈ fraction, c.isDigit = true)
    (ended : ∀ c ∈ rest.head?, c.isDigit = false) :
    readUnsigned? negative (whole ++ '.' :: (fraction ++ rest)) =
      (readExponent? rest).map fun exponent =>
        ⟨negative, digitsValue (whole ++ fraction), exponent - fraction.length⟩ := by
  have point : ∀ c ∈ ('.' :: (fraction ++ rest)).head?, c.isDigit = false := by
    rintro c ⟨⟩
    decide
  obtain ⟨taken, left⟩ := span_digits digits point
  obtain ⟨behind, remains⟩ := span_digits fractional ended
  rw [readUnsigned?, taken, left]
  simp only [behind, remains]
  simp [filled]

theorem readExponent?_signed (negative : Bool) (size : Nat) :
    readExponent? ('e' :: (if negative = true then '-' else '+') :: Nat.toDigits 10 size) =
      some (if negative = true then -(size : Int) else size) := by
  have digits : (Nat.toDigits 10 size).all Char.isDigit = true :=
    List.all_eq_true.mpr (isDigit_toDigits size)
  cases negative <;>
    simp [readExponent?, splitSign, digits, Nat.toDigits_ne_nil, digitsValue_toDigits]

end Reader

section Layouts

variable {negative : Bool} {digits : List Char} {leading : Int}

/-- Read as a number of the given digits, up to zeros behind them. -/
def ReadsAs (negative : Bool) (text digits : List Char) (exponent : Int) : Prop :=
  ∃ decimal, readUnsigned? negative text = some decimal ∧ decimal.negative = negative ∧
    SameValue decimal ⟨negative, digitsValue digits, exponent⟩

theorem readsAs_of_eq {text : List Char} {exponent : Int}
    (read : readUnsigned? negative text = some ⟨negative, digitsValue digits, exponent⟩) :
    ReadsAs negative text digits exponent :=
  ⟨_, read, rfl, .refl _⟩

theorem isDigit_zeros (count : Nat) : ∀ c ∈ List.replicate count '0', c.isDigit = true := by
  intro c listed
  rw [List.eq_of_mem_replicate listed]
  decide

theorem head?_nil_forall {p : Char → Prop} : ∀ c ∈ ([] : List Char).head?, p c := nofun

/-- Zeros between the point and the digits move the digits back. -/
theorem readsAs_below_one (made : ∀ c ∈ digits, c.isDigit = true) (zeros : Nat) :
    ReadsAs negative ('0' :: '.' :: (List.replicate zeros '0' ++ digits)) digits
      (-(zeros + digits.length)) := by
  let fraction := List.replicate zeros '0' ++ digits
  have fractional : ∀ c ∈ fraction, c.isDigit = true := fun c listed =>
    (List.mem_append.mp listed).elim (isDigit_zeros _ c) (made c)
  have read : readUnsigned? negative (['0'] ++ '.' :: (fraction ++ [])) = _ :=
    readUnsigned?_point (List.cons_ne_nil _ _) (isDigit_zeros 1) fractional head?_nil_forall
  have value : digitsValue (['0'] ++ fraction) = digitsValue digits :=
    digitsValue_zeros (zeros + 1) digits
  have places : (0 : Int) - fraction.length = -(zeros + digits.length) := by
    rw [List.length_append, List.length_replicate]
    omega
  rw [List.append_nil, readExponent?, Option.map_some, value, places] at read
  exact readsAs_of_eq read

/-- A whole number is filled up with zeros and ends in one more behind the point. -/
theorem readsAs_whole (filled : digits ≠ []) (made : ∀ c ∈ digits, c.isDigit = true)
    (zeros : Nat) :
    ReadsAs negative (digits ++ List.replicate zeros '0' ++ ['.', '0']) digits zeros := by
  let whole := digits ++ List.replicate zeros '0'
  have filled' : whole ≠ [] := List.append_ne_nil_of_left_ne_nil filled _
  have made' : ∀ c ∈ whole, c.isDigit = true := fun c listed =>
    (List.mem_append.mp listed).elim (made c) (isDigit_zeros _ c)
  have read : readUnsigned? negative (whole ++ '.' :: (['0'] ++ [])) = _ :=
    readUnsigned?_point filled' made' (isDigit_zeros 1) head?_nil_forall
  have value : digitsValue (whole ++ ['0']) = digitsValue digits * 10 ^ (zeros + 1) := by
    rw [← digitsValue_append_zeros, List.append_assoc, List.replicate_succ']
  have places : (zeros : Int) = -1 + (zeros + 1 : Nat) := by omega
  rw [List.append_nil, readExponent?, Option.map_some, value] at read
  rw [places]
  refine ⟨_, read, rfl, ?_⟩
  exact sameValue_shift negative negative (digitsValue digits) (zeros + 1) (-1)

/-- The point between the digits cuts off the places behind it. -/
theorem readsAs_cut (made : ∀ c ∈ digits, c.isDigit = true) {width : Nat} (nonzero : 0 < width)
    (within : width < digits.length) :
    ReadsAs negative (digits.take width ++ '.' :: digits.drop width) digits
      (width - digits.length) := by
  have filled : digits.take width ≠ [] := by
    rw [ne_eq, List.take_eq_nil_iff, not_or, ← List.length_eq_zero_iff]
    omega
  have read : readUnsigned? negative
      (digits.take width ++ '.' :: (digits.drop width ++ [])) = _ :=
    readUnsigned?_point filled (fun c listed => made c (List.mem_of_mem_take listed))
      (fun c listed => made c (List.mem_of_mem_drop listed)) head?_nil_forall
  have places : (0 : Int) - (digits.drop width).length = width - digits.length := by
    rw [List.length_drop]
    omega
  rw [List.append_nil, readExponent?, Option.map_some, List.take_append_drop, places] at read
  exact readsAs_of_eq read

/-- A number in positional notation reads as its digits, each at its place. -/
theorem readsAs_positionalText (filled : digits ≠ []) (made : ∀ c ∈ digits, c.isDigit = true) :
    ReadsAs negative (Layout.json.positionalText digits leading) digits
      (leading - digits.length + 1) := by
  rw [Layout.positionalText]
  by_cases small : leading < 0
  · have places : leading - digits.length + 1 =
        -((-leading - 1).toNat + digits.length) := by omega
    rw [if_pos small, places]
    exact readsAs_below_one made _
  · obtain ⟨width, reached⟩ : ∃ width : Nat, width = leading.toNat + 1 := ⟨_, rfl⟩
    rw [if_neg small, ← reached]
    dsimp only
    by_cases cut : digits.drop width = []
    · have short : digits.length ≤ width := List.drop_eq_nil_iff.mp cut
      have places : leading - digits.length + 1 = (width - digits.length : Nat) := by omega
      rw [cut, List.isEmpty_nil, List.take_of_length_le short, places]
      exact readsAs_whole filled made _
    · have long : width < digits.length := not_le.mp (mt List.drop_eq_nil_iff.mpr cut)
      have places : leading - digits.length + 1 = width - digits.length := by omega
      rw [List.isEmpty_eq_false_iff.mpr cut, Nat.sub_eq_zero_of_le long.le, List.replicate_zero,
        List.append_nil, places]
      exact readsAs_cut made (by omega) long

/-- The mark, the sign and the digits of an exponent. -/
def exponentMark (leading : Int) : List Char :=
  'e' :: (if decide (leading < 0) = true then '-' else '+') :: Nat.toDigits 10 leading.natAbs

theorem readExponent?_exponentMark (leading : Int) :
    readExponent? (exponentMark leading) = some leading := by
  rw [exponentMark, readExponent?_signed]
  by_cases small : leading < 0
  · rw [decide_eq_true small, if_pos rfl, Int.ofNat_natAbs_of_nonpos small.le, Int.neg_neg]
  · rw [decide_eq_false small, if_neg Bool.false_ne_true, Int.natAbs_of_nonneg (not_lt.mp small)]

theorem exponentText_cons (first : Char) (fraction : List Char) (leading : Int) :
    Layout.json.exponentText (first :: fraction) leading =
      if fraction = [] then [first] ++ exponentMark leading
      else [first] ++ '.' :: (fraction ++ exponentMark leading) := by
  by_cases small : leading < 0 <;> by_cases whole : fraction = [] <;>
    simp [Layout.exponentText, Layout.json, exponentMark, small, whole]

/-- A number in exponent notation reads as its digits under its exponent. -/
theorem readsAs_exponentText (filled : digits ≠ []) (made : ∀ c ∈ digits, c.isDigit = true) :
    ReadsAs negative (Layout.json.exponentText digits leading) digits
      (leading - digits.length + 1) := by
  obtain ⟨first, fraction, rfl⟩ := List.exists_cons_of_ne_nil filled
  rw [List.forall_mem_cons] at made
  have single : ∀ c ∈ [first], c.isDigit = true := List.forall_mem_singleton.mpr made.1
  have ended : ∀ c ∈ (exponentMark leading).head?, c.isDigit = false ∧ c ≠ '.' := by
    rintro c ⟨⟩
    decide
  have places : leading - fraction.length = leading - (first :: fraction).length + 1 := by
    rw [List.length_cons]
    omega
  rw [exponentText_cons]
  refine readsAs_of_eq ?_
  by_cases whole : fraction = []
  · subst whole
    rw [if_pos rfl, readUnsigned?_whole (List.cons_ne_nil _ _) single ended,
      readExponent?_exponentMark, Option.map_some, ← places, List.length_nil, Nat.cast_zero,
      Int.sub_zero]
  · rw [if_neg whole, readUnsigned?_point (List.cons_ne_nil _ _) single made.2
      fun c marked => (ended c marked).1, readExponent?_exponentMark, Option.map_some, places]
    rfl

/-- The text of a magnitude reads as a number that rounds to it. -/
theorem exists_readUnsigned?_magnitudeText {k : Nat} (finite : k < Binary64.infinity) :
    ∃ decimal, readUnsigned? negative (Layout.json.magnitudeText k) = some decimal ∧
      decimal.negative = negative ∧ decimal.nearestMagnitude = k := by
  have filled : Nat.toDigits 10 (shortest k).1 ≠ [] := Nat.toDigits_ne_nil
  have made := isDigit_toDigits (shortest k).1
  obtain ⟨decimal, read, sign, same⟩ : ReadsAs negative (Layout.json.magnitudeText k)
      (Nat.toDigits 10 (shortest k).1) (shortest k).2 := by
    let leading := (shortest k).2 + (Nat.toDigits 10 (shortest k).1).length - 1
    have exponent : (shortest k).2 = leading - (Nat.toDigits 10 (shortest k).1).length + 1 := by
      omega
    rw [Layout.magnitudeText, exponent]
    dsimp only
    split
    · exact readsAs_positionalText filled made
    · exact readsAs_exponentText filled made
  refine ⟨decimal, read, sign, ?_⟩
  rw [same.nearestMagnitude_eq, digitsValue_toDigits, nearestMagnitude_shortest finite]

end Layouts

section Texts

/-- Unsigned text under a sign of its own. -/
theorem readFloat?_signed {negative : Bool} {chars : List Char} {decimal : Decimal}
    (unsigned : ∀ c ∈ chars.head?, c ≠ '-' ∧ c ≠ '+')
    (read : readUnsigned? negative chars = some decimal) :
    readFloat? (String.ofList ((if negative = true then ['-'] else []) ++ chars)) =
      some decimal.toFloat := by
  have parted : splitSign ((if negative = true then ['-'] else []) ++ chars) =
      (negative, chars) := by
    cases negative with
    | true => rfl
    | false =>
        cases chars with
        | nil => rfl
        | cons c rest =>
            obtain ⟨minus, plus⟩ := unsigned c rfl
            simp [splitSign, minus, plus]
  rw [readFloat?, String.toList_ofList, parted]
  simp only [read]

theorem head?_of_readUnsigned? {negative : Bool} {chars : List Char} {decimal : Decimal}
    (read : readUnsigned? negative chars = some decimal) :
    ∀ c ∈ chars.head?, c ≠ '-' ∧ c ≠ '+' := by
  intro c first
  obtain ⟨rest, rfl⟩ : ∃ rest, chars = c :: rest := List.head?_eq_some_iff.mp first
  constructor <;>
    (rintro rfl; simp [readUnsigned?] at read)

/-- A finite double is read back from its text. -/
theorem readFloat?_render {x : Float} (finite : x.isFinite = true) :
    readFloat? (Layout.json.render x) = some x := by
  have low := (Binary64.isFinite_iff x).mp finite
  obtain ⟨decimal, read, sign, nearest⟩ := exists_readUnsigned?_magnitudeText low
  rw [Layout.render, Binary64.isNaN_of_isFinite finite, if_neg Bool.false_ne_true]
  dsimp only
  rw [if_neg low.ne, readFloat?_signed (head?_of_readUnsigned? read) read, toFloat, sign, nearest,
    Binary64.ofMagnitude_magnitude]

end Texts

section Blanks

/-- The characters that numbers are written with. -/
def isNumeral (c : Char) : Bool := c.isDigit || ['-', '+', '.', 'e'].contains c

theorem isNumeral_of_isDigit {c : Char} (digit : c.isDigit = true) : isNumeral c = true := by
  rw [isNumeral, digit, Bool.true_or]

theorem not_isBlank_of_isNumeral {c : Char} (numeral : isNumeral c = true) :
    Text.isBlank c = false := by
  rcases Bool.or_eq_true_iff.mp numeral with digit | mark
  · have bounds : 48 ≤ c.toNat ∧ c.toNat ≤ 57 := by
      simpa [Char.isDigit, UInt32.le_iff_toNat_le] using digit
    simp [Text.isBlank]
    omega
  · simp only [List.contains_iff_mem, List.mem_cons, List.not_mem_nil, or_false] at mark
    rcases mark with rfl | rfl | rfl | rfl <;> decide

theorem isNumeral_positionalText {digits : List Char} {leading : Int}
    (made : ∀ c ∈ digits, isNumeral c = true) :
    ∀ c ∈ Layout.json.positionalText digits leading, isNumeral c = true := by
  have zeros (count : Nat) : ∀ c ∈ List.replicate count '0', isNumeral c = true := fun c listed =>
    isNumeral_of_isDigit (isDigit_zeros count c listed)
  have whole (width : Nat) : ∀ c ∈ digits.take width, isNumeral c = true := fun c listed =>
    made c (List.mem_of_mem_take listed)
  have fraction (width : Nat) : ∀ c ∈ digits.drop width, isNumeral c = true := fun c listed =>
    made c (List.mem_of_mem_drop listed)
  have zero : isNumeral '0' = true := by decide
  have point : isNumeral '.' = true := by decide
  rw [Layout.positionalText]
  split
  · simp only [List.forall_mem_cons, List.forall_mem_append]
    exact ⟨zero, point, zeros _, made⟩
  · dsimp only
    split
    · simp only [List.forall_mem_cons, List.forall_mem_append]
      exact ⟨⟨whole _, zeros _⟩, point, fraction _⟩
    · split
      · simp only [List.forall_mem_cons, List.forall_mem_append]
        exact ⟨⟨whole _, zeros _⟩, point, zero, List.forall_mem_nil _⟩
      · simp only [List.forall_mem_append]
        exact ⟨whole _, zeros _⟩

theorem isNumeral_exponentText {first : Char} {fraction : List Char} {leading : Int}
    (made : ∀ c ∈ first :: fraction, isNumeral c = true) :
    ∀ c ∈ Layout.json.exponentText (first :: fraction) leading, isNumeral c = true := by
  have marks : isNumeral 'e' = true ∧ isNumeral '-' = true ∧ isNumeral '+' = true ∧
      isNumeral '.' = true := by decide
  have exponent : ∀ c ∈ exponentMark leading, isNumeral c = true := by
    simp only [exponentMark, List.forall_mem_cons]
    refine ⟨marks.1, ?_, fun c listed => isNumeral_of_isDigit (isDigit_toDigits _ c listed)⟩
    split
    · exact marks.2.1
    · exact marks.2.2.1
  rw [List.forall_mem_cons] at made
  rw [exponentText_cons]
  split
  · simp only [List.forall_mem_append, List.forall_mem_singleton]
    exact ⟨made.1, exponent⟩
  · simp only [List.forall_mem_append, List.forall_mem_singleton, List.forall_mem_cons]
    exact ⟨made.1, marks.2.2.2, made.2, exponent⟩

theorem isNumeral_render {x : Float} (finite : x.isFinite = true) :
    ∀ c ∈ (Layout.json.render x).toList, isNumeral c = true := by
  have low := (Binary64.isFinite_iff x).mp finite
  have digits : ∀ c ∈ Nat.toDigits 10 (shortest (Binary64.magnitude x)).1, isNumeral c = true :=
    fun c listed => isNumeral_of_isDigit (isDigit_toDigits _ c listed)
  have magnitude : ∀ c ∈ Layout.json.magnitudeText (Binary64.magnitude x), isNumeral c = true := by
    rw [Layout.magnitudeText]
    dsimp only
    split
    · exact isNumeral_positionalText digits
    · obtain ⟨first, fraction, parts⟩ := List.exists_cons_of_ne_nil
        (Nat.toDigits_ne_nil : Nat.toDigits 10 (shortest (Binary64.magnitude x)).1 ≠ [])
      rw [parts] at digits ⊢
      exact isNumeral_exponentText digits
  rw [Layout.render, Binary64.isNaN_of_isFinite finite, if_neg Bool.false_ne_true]
  dsimp only
  rw [if_neg low.ne, String.toList_ofList, List.forall_mem_append]
  refine ⟨?_, magnitude⟩
  split
  · simpa using (by decide : isNumeral '-' = true)
  · exact List.forall_mem_nil _

end Blanks

end Decimal

namespace Json.Number

section Integers

variable {value : Int} (inRange : -0x8000000000000000 ≤ value ∧ value < 0x10000000000000000)

theorem text_integer : (Number.integer value inRange).text = String.ofList
    ((if decide (value < 0) = true then ['-'] else []) ++ Nat.toDigits 10 value.natAbs) := by
  show value.repr = _
  cases value with
  | ofNat n => exact Nat.repr_eq_ofList_toDigits
  | negSucc n =>
      show "-" ++ (n + 1).repr = _
      rw [Nat.repr_eq_ofList_toDigits, decide_eq_true (Int.negSucc_lt_zero n), if_pos rfl,
        String.ofList_append]
      rfl

theorem readUnsigned?_natAbs (value : Int) (negative : Bool) :
    Decimal.readUnsigned? negative (Nat.toDigits 10 value.natAbs) =
      some ⟨negative, value.natAbs, 0⟩ := by
  have read : Decimal.readUnsigned? negative (Nat.toDigits 10 value.natAbs ++ []) = _ :=
    Decimal.readUnsigned?_whole Nat.toDigits_ne_nil (Decimal.isDigit_toDigits _)
      Decimal.head?_nil_forall
  rw [List.append_nil, Decimal.readExponent?, Option.map_some, Decimal.digitsValue_toDigits] at read
  exact read

end Integers

/-- A number is read back from its text. -/
theorem readFloat?_text (number : Number) :
    Decimal.readFloat? number.text = some number.toFloat := by
  cases number with
  | real value finite => exact Decimal.readFloat?_render finite
  | integer value inRange =>
      have read := readUnsigned?_natAbs value (decide (value < 0))
      rw [text_integer, Decimal.readFloat?_signed (Decimal.head?_of_readUnsigned? read) read]
      rfl

theorem isNumeral_text (number : Number) :
    ∀ c ∈ number.text.toList, Decimal.isNumeral c = true := by
  cases number with
  | real value finite => exact Decimal.isNumeral_render finite
  | integer value inRange =>
      rw [text_integer, String.toList_ofList, List.forall_mem_append]
      refine ⟨?_, fun c listed => ?digit⟩
      case digit => exact Decimal.isNumeral_of_isDigit (Decimal.isDigit_toDigits _ c listed)
      split
      · simpa using (by decide : Decimal.isNumeral '-' = true)
      · exact List.forall_mem_nil _

end Json.Number

end Flowline
