import Flowline.Proofs.Decimal.Nearest

/-!
A double as a sign and a magnitude: every double has its own pair, the finite ones are those below
the magnitude of infinity, and the order key is the magnitude under its sign.
-/

namespace Flowline.Binary64

open Float.Model Float.Model.UnpackedFloat

theorem log2_lt_of_lt {n bits : Nat} (small : n < 2 ^ (bits + 1)) : n.log2 < bits + 1 := by
  rcases Nat.eq_zero_or_pos n with rfl | positive
  · exact Nat.succ_pos bits
  · exact (Nat.log2_lt positive.ne').mpr small

theorem signBit_eq : signBit = 2 ^ 63 := by decide

theorem toBits_lt (x : Float) : x.toBits.toNat < 2 ^ 64 := x.toBits.toNat_lt

theorem toBits_eq (x : Float) :
    x.toBits.toNat = (if isNegative x = true then signBit else 0) + magnitude x := by
  have bounded := toBits_lt x
  rw [magnitude, isNegative, signBit_eq]
  split <;> simp_all <;> omega

/-- A double is told by its sign and its magnitude. -/
theorem ofMagnitude_magnitude (x : Float) : ofMagnitude (isNegative x) (magnitude x) = x := by
  have whole : UInt64.ofNat (if isNegative x = true then signBit + magnitude x else magnitude x) =
      x.toBits := by
    rw [← UInt64.toNat_inj, UInt64.toNat_ofNat', toBits_eq]
    have bounded := toBits_lt x
    rw [toBits_eq] at bounded
    split <;> simp_all [Nat.mod_eq_of_lt]
  rw [ofMagnitude, whole, Float.ofBits_toBits]

section Fields

variable (bits : BitVec 64)

theorem toNat_unpackExponent :
    (@unpackExponent .binary64 bits).toNat = bits.toNat / 2 ^ 52 % 2 ^ 11 := by
  rw [unpackExponent_def, BitVec.extractLsb'_toNat, Nat.shiftRight_eq_div_pow]

theorem toNat_unpackMantissa :
    (@unpackMantissa .binary64 bits).toNat = bits.toNat % 2 ^ 52 := by
  rw [unpackMantissa_def, BitVec.extractLsb'_toNat, Nat.shiftRight_zero]

theorem unpackExponent_eq_ones_iff :
    @unpackExponent .binary64 bits = -1#11 ↔ bits.toNat / 2 ^ 52 % 2 ^ 11 = 2047 := by
  rw [← BitVec.toNat_inj, toNat_unpackExponent]
  rfl

/-- The exponent of infinity and of what is no number has all its bits set. -/
theorem isFinite_unpack_iff :
    (UnpackedFloat.unpack .binary64 bits).isFinite = true ↔
      bits.toNat / 2 ^ 52 % 2 ^ 11 ≠ 2047 := by
  rw [ne_eq, ← unpackExponent_eq_ones_iff, UnpackedFloat.unpack]
  by_cases full : @unpackExponent .binary64 bits = -1#11
  · by_cases empty : @unpackMantissa .binary64 bits = 0#52 <;>
      simp [full, empty, UnpackedFloat.isFinite]
  · simp only [full, if_false, not_false_eq_true, iff_true]
    split
    · split <;> rfl
    · rfl

/-- Infinity has no more than these bits set. -/
theorem isInf_unpack_iff : (UnpackedFloat.unpack .binary64 bits).isInf = true ↔
    bits.toNat / 2 ^ 52 % 2 ^ 11 = 2047 ∧ bits.toNat % 2 ^ 52 = 0 := by
  have zeros : @unpackMantissa .binary64 bits = 0#52 ↔ bits.toNat % 2 ^ 52 = 0 := by
    rw [← BitVec.toNat_inj, toNat_unpackMantissa]
    rfl
  rw [← unpackExponent_eq_ones_iff, ← zeros, UnpackedFloat.unpack]
  by_cases full : @unpackExponent .binary64 bits = -1#11
  · by_cases empty : @unpackMantissa .binary64 bits = 0#52 <;>
      simp [full, empty, UnpackedFloat.isInf]
  · simp only [full, if_false, false_and, iff_false, Bool.not_eq_true]
    split
    · split <;> rfl
    · rfl

theorem pack_unpack_of_magnitude (bounded : bits.toNat % 2 ^ 63 ≤ infinity) :
    (UnpackedFloat.unpack .binary64 bits).pack .binary64 = bits := by
  have number : @isNaNBits .binary64 bits = false := by
    rw [isNaNBits, decide_eq_false_iff_not, ← BitVec.toNat_inj, ne_eq, ← BitVec.toNat_inj,
      toNat_unpackExponent, toNat_unpackMantissa]
    rintro ⟨full, filled⟩
    refine filled ?_
    have := bits.isLt
    have whole : infinity = 2047 * 2 ^ 52 := rfl
    simp at full ⊢
    omega
  rw [pack_unpack, number]
  rfl

end Fields

theorem isFinite_iff (x : Float) : x.isFinite = true ↔ magnitude x < infinity := by
  have unpacked : x.isFinite = (UnpackedFloat.unpack .binary64 x.toBits.toBitVec).isFinite := rfl
  have bounded := toBits_lt x
  have whole : infinity = 2047 * 2 ^ 52 := rfl
  rw [unpacked, isFinite_unpack_iff, magnitude, signBit_eq, whole]
  show x.toBits.toNat / 2 ^ 52 % 2 ^ 11 ≠ 2047 ↔ _
  omega

theorem isInf_iff (x : Float) : x.isInf = true ↔ magnitude x = infinity := by
  have unpacked : x.isInf = (UnpackedFloat.unpack .binary64 x.toBits.toBitVec).isInf := rfl
  have bounded := toBits_lt x
  have whole : infinity = 2047 * 2 ^ 52 := rfl
  rw [unpacked, isInf_unpack_iff, magnitude, signBit_eq, whole]
  show x.toBits.toNat / 2 ^ 52 % 2 ^ 11 = 2047 ∧ x.toBits.toNat % 2 ^ 52 = 0 ↔ _
  omega

theorem isNaN_eq_false_iff (x : Float) :
    x.isNaN = false ↔ x.isFinite = true ∨ x.isInf = true := by
  show x.toModel.unpack.isNaN = false ↔
    x.toModel.unpack.isFinite = true ∨ x.toModel.unpack.isInf = true
  cases x.toModel.unpack <;>
    simp [UnpackedFloat.isNaN, UnpackedFloat.isFinite, UnpackedFloat.isInf]

theorem isNaN_of_isFinite {x : Float} (finite : x.isFinite = true) : x.isNaN = false :=
  (isNaN_eq_false_iff x).mpr (.inl finite)

theorem toBits_ofMagnitude (negative : Bool) {k : Nat} (bounded : k ≤ infinity) :
    (ofMagnitude negative k).toBits.toNat = (if negative = true then signBit else 0) + k := by
  have fits := infinity_lt
  have word : (UInt64.ofNat (if negative = true then signBit + k else k)).toNat =
      (if negative = true then signBit else 0) + k := by
    rw [UInt64.toNat_ofNat', signBit_eq]
    split <;> omega
  have kept : (ofMagnitude negative k).toBits =
      UInt64.ofNat (if negative = true then signBit + k else k) := by
    refine UInt64.toBitVec_inj.mp (pack_unpack_of_magnitude _ ?_)
    show (UInt64.ofNat _).toNat % 2 ^ 63 ≤ infinity
    rw [word, signBit_eq]
    split <;> omega
  rw [kept, word]

section OfMagnitude

variable (negative : Bool) {k : Nat}

theorem magnitude_ofMagnitude (bounded : k ≤ infinity) :
    magnitude (ofMagnitude negative k) = k := by
  have fits := infinity_lt
  rw [magnitude, toBits_ofMagnitude negative bounded, signBit_eq]
  split <;> omega

theorem isNegative_ofMagnitude (bounded : k ≤ infinity) :
    isNegative (ofMagnitude negative k) = negative := by
  have fits := infinity_lt
  rw [isNegative, toBits_ofMagnitude negative bounded, signBit_eq]
  cases negative
  · simpa using by omega
  · simp

theorem isFinite_ofMagnitude (finite : k < infinity) :
    (ofMagnitude negative k).isFinite = true := by
  rw [isFinite_iff, magnitude_ofMagnitude negative finite.le]
  exact finite

theorem orderKey_ofMagnitude (bounded : k ≤ infinity) :
    orderKey (ofMagnitude negative k) = if negative = true then -(k : Int) else k := by
  rw [orderKey, isNegative_ofMagnitude negative bounded, magnitude_ofMagnitude negative bounded]

end OfMagnitude

end Flowline.Binary64
