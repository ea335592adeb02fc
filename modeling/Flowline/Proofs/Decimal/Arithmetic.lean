import Flowline.Proofs.Decimal.Binary64

/-!
When the arithmetic of doubles stays finite. Each operation rounds the exact result, so it leaves
the finite doubles just if the exact result lies at or beyond the point halfway from the greatest
finite double to the next power of two.
-/

namespace Flowline.Binary64

open Float.Model Float.Model.UnpackedFloat

/-- The point halfway from the greatest finite double to `2 ^ 1024`. -/
def overflow : ℚ := (2 ^ 54 - 1) * 2 ^ (970 : ℤ)

theorem overflow_pos : 0 < overflow := by
  rw [overflow]
  positivity

section Truncation

/-- A mantissa and its round bit, in halves. -/
def halves (em : ExtendedMantissa) : Nat := 2 * em.mantissa + em.roundBit.toNat

/-- A mantissa with its round bit is what lies up to `x`. -/
structure Truncates (em : ExtendedMantissa) (x : ℚ) : Prop where
  lower : halves em ≤ 2 * x
  upper : 2 * x < halves em + 1

variable {em : ExtendedMantissa} {x : ℚ}

theorem Truncates.mantissa_le (truncates : Truncates em x) : em.mantissa ≤ x := by
  have lower := truncates.lower
  rw [halves, Nat.cast_add, Nat.cast_mul, Nat.cast_ofNat] at lower
  have bit : (0 : ℚ) ≤ em.roundBit.toNat := Nat.cast_nonneg _
  linarith

theorem Truncates.lt_succ (truncates : Truncates em x) : x < em.mantissa + 1 := by
  have upper := truncates.upper
  have bit : (em.roundBit.toNat : ℚ) ≤ 1 := Nat.cast_le_one.mpr (Bool.toNat_le _)
  rw [halves, Nat.cast_add, Nat.cast_mul, Nat.cast_ofNat] at upper
  linarith

theorem halves_shiftRightOne (em : ExtendedMantissa) : halves em.shiftRightOne = em.mantissa := by
  show 2 * (em.mantissa / 2) + (em.mantissa % 2 != 0).toNat = em.mantissa
  rcases Nat.mod_two_eq_zero_or_one em.mantissa with even | odd
  · rw [even]
    exact Nat.mul_div_cancel' (Nat.dvd_of_mod_eq_zero even)
  · rw [odd]
    show 2 * (em.mantissa / 2) + 1 = em.mantissa
    omega

theorem Truncates.shiftRightOne (truncates : Truncates em x) :
    Truncates em.shiftRightOne (x / 2) := by
  have lower := truncates.mantissa_le
  have upper := truncates.lt_succ
  constructor <;> rw [halves_shiftRightOne] <;> linarith

theorem Truncates.shiftRight (truncates : Truncates em x) (shift : Nat) :
    Truncates (em >>> shift) (x / 2 ^ shift) := by
  induction shift with
  | zero =>
      rw [pow_zero, div_one]
      exact truncates
  | succ shift ih =>
      rw [pow_succ, ← div_div]
      exact ih.shiftRightOne

theorem truncates_exact (mantissa : Nat) :
    Truncates (.ofMantissaAndAccuracy mantissa .exact) mantissa := by
  constructor <;> simp [halves, ExtendedMantissa.ofMantissaAndAccuracy]

theorem halves_quotient (num : Nat) {den : Nat} (fraction : 0 < den) :
    halves (.ofMantissaAndAccuracy (num / den) (accuracyOfFraction (num % den) den)) =
      2 * num / den := by
  have within := Nat.mod_lt num fraction
  have whole : 2 * num / den = 2 * (num / den) + 2 * (num % den) / den := by
    conv_lhs => rw [← Nat.div_add_mod num den, Nat.mul_add, Nat.mul_left_comm,
      Nat.mul_add_div fraction]
  rw [whole, accuracyOfFraction]
  by_cases none : num % den = 0
  · rw [if_pos none, none, Nat.mul_zero, Nat.zero_div]
    rfl
  · rw [if_neg none]
    rcases lt_trichotomy (2 * (num % den)) den with below | middle | above
    · rw [Nat.compare_eq_lt.mpr below, Nat.div_eq_of_lt below]
      rfl
    · rw [Nat.compare_eq_eq.mpr middle, middle, Nat.div_self fraction]
      rfl
    · rw [Nat.compare_eq_gt.mpr above,
        Nat.div_eq_of_lt_le (by omega) (by omega : 2 * (num % den) < (1 + 1) * den)]
      rfl

theorem truncates_quotient (num : Nat) {den : Nat} (fraction : 0 < den) :
    Truncates (.ofMantissaAndAccuracy (num / den) (accuracyOfFraction (num % den) den))
      (num / den : ℚ) := by
  have positive : (0 : ℚ) < den := Nat.cast_pos.mpr fraction
  constructor <;> rw [halves_quotient num fraction, ← mul_div_assoc]
  · rw [le_div_iff₀ positive]
    exact_mod_cast Nat.div_mul_le_self (2 * num) den
  · rw [div_lt_iff₀ positive]
    have below := Nat.lt_mul_div_succ (2 * num) fraction
    rw [Nat.mul_comm den] at below
    exact_mod_cast below

end Truncation

section Carry

variable {em : ExtendedMantissa} {x : ℚ}

theorem mantissa_le_roundedMantissa (em : ExtendedMantissa) :
    em.mantissa ≤ em.roundedMantissa := by
  obtain ⟨mantissa, roundBit, stickyBit⟩ := em
  cases roundBit <;> cases stickyBit <;>
    simp [ExtendedMantissa.roundedMantissa, ExtendedMantissa.accuracy,
      Accuracy.roundToNearestEven]

theorem roundedMantissa_le_succ (em : ExtendedMantissa) :
    em.roundedMantissa ≤ em.mantissa + 1 := by
  have parity := Nat.mod_lt em.mantissa Nat.two_pos
  obtain ⟨mantissa, roundBit, stickyBit⟩ := em
  cases roundBit <;> cases stickyBit <;>
    simp only [ExtendedMantissa.roundedMantissa, ExtendedMantissa.accuracy,
      Accuracy.roundToNearestEven] <;> omega

/-- The greatest mantissa of 53 bits is odd, so it is rounded up just if its round bit is set. -/
theorem roundedMantissa_lt_iff_halves (small : em.mantissa < 2 ^ 53) :
    em.roundedMantissa < 2 ^ 53 ↔ halves em + 1 < 2 ^ 54 := by
  obtain ⟨mantissa, roundBit, stickyBit⟩ := em
  cases roundBit <;> cases stickyBit <;>
    simp only [ExtendedMantissa.roundedMantissa, ExtendedMantissa.accuracy,
      Accuracy.roundToNearestEven, halves, Bool.toNat_false, Bool.toNat_true] at small ⊢ <;> omega

theorem Truncates.roundedMantissa_lt_iff (truncates : Truncates em x)
    (small : em.mantissa < 2 ^ 53) : em.roundedMantissa < 2 ^ 53 ↔ 2 * x + 1 < 2 ^ 54 := by
  have lower := truncates.lower
  have upper := truncates.upper
  rw [roundedMantissa_lt_iff_halves small]
  constructor
  · intro below
    have : ((halves em + 1 + 1 : Nat) : ℚ) ≤ (2 ^ 54 : Nat) := Nat.cast_le.mpr below
    push_cast at this
    linarith
  · intro below
    have : ((halves em + 1 : Nat) : ℚ) < (2 ^ 54 : Nat) := by
      push_cast
      linarith
    exact Nat.cast_lt.mp this

end Carry

section Packing

/-- Whether a result fits into a double. -/
def Fits (u : UnpackedFloat) : Prop :=
  (UnpackedFloat.unpack .binary64 (u.pack .binary64)).isFinite = true

@[simp] theorem fits_zero (sign : Sign) : Fits (.zero sign) := by
  cases sign <;> rfl

@[simp] theorem not_fits_infinity (sign : Sign) : ¬Fits (.infinity sign) := by
  cases sign <;> exact Bool.false_ne_true

@[simp] theorem not_fits_notANumber : ¬Fits .notANumber := Bool.false_ne_true

theorem fits_finite_iff {sign : Sign} {mantissa : Nat} {exponent : Int} {positive : 0 < mantissa} :
    Fits (.finite sign mantissa exponent positive) ↔ exponent < 972 := by
  have biased : (exponent + Format.exponentBias .binary64 + (52 : Nat)).toNat =
      (exponent + 1075).toNat := by
    show (exponent + (1023 : Nat) + (52 : Nat)).toNat = _
    omega
  have width : 2 ^ Format.exponentBits .binary64 = 2048 := rfl
  rw [Fits, isFinite_unpack_iff, ← toNat_unpackExponent, UnpackedFloat.pack, biased, width]
  split
  · have full : (-1#11 : BitVec 11).toNat = 2047 := rfl
    rw [packedInfinity, unpackExponent_packComponents, full]
    omega
  · split
    · rw [unpackExponent_packComponents, BitVec.toNat_ofNat, width]
      omega
    · rw [unpackExponent_packComponents, BitVec.toNat_ofNat, width]
      omega

end Packing

section Rounding

/-- The exponent that a number is rounded to. -/
def target (mantissa : Nat) (exponent : Int) : Int := max (mantissa.log2 + exponent - 52) (-1074)

theorem targetExponent_eq (mantissa : Nat) (exponent : Int) :
    Format.binary64.targetExponent (totalExponent mantissa exponent) =
      target mantissa exponent := by
  simp only [Format.targetExponent, totalExponent, Format.mantissaBits, Format.minExponent, target]
  omega

theorem shiftToTargetExponent_eq (mantissa : Nat) (exponent : Int) (accuracy : Accuracy) :
    shiftToTargetExponent .binary64 mantissa exponent accuracy =
      (ExtendedMantissa.ofMantissaAndAccuracy mantissa accuracy >>>
          (target mantissa exponent - exponent).toNat,
        exponent + (target mantissa exponent - exponent).toNat) := by
  rw [← targetExponent_eq]
  rfl

theorem le_target_of_wide {mantissa : Nat} {exponent : Int} (wide : 2 ^ 52 ≤ mantissa) :
    exponent ≤ target mantissa exponent := by
  have := (Nat.le_log2 (by omega)).mpr wide
  rw [target]
  omega

theorem le_target_of_low {mantissa : Nat} {exponent : Int} (low : exponent ≤ -1074) :
    exponent ≤ target mantissa exponent := le_max_of_le_right low

/-- A rounded mantissa is shifted once more only if it was carried into the next place. -/
theorem shiftToTargetExponent_rounded {mantissa : Nat} {exponent : Int} (low : -1074 ≤ exponent)
    (bounded : mantissa ≤ 2 ^ 53) :
    shiftToTargetExponent .binary64 mantissa exponent .exact =
      if mantissa < 2 ^ 53 then (⟨mantissa, false, false⟩, exponent)
      else (⟨2 ^ 52, false, false⟩, exponent + 1) := by
  rw [shiftToTargetExponent_eq]
  split
  · have short := @log2_lt_of_lt mantissa 52 ‹_›
    have still : (target mantissa exponent - exponent).toNat = 0 := by
      rw [target]
      omega
    rw [still, Int.natCast_zero, Int.add_zero]
    rfl
  · obtain rfl : mantissa = 2 ^ 53 := by omega
    have once : (target (2 ^ 53) exponent - exponent).toNat = 1 := by
      rw [target, Nat.log2_two_pow]
      omega
    rw [once]
    rfl

theorem fits_roundWithAccuracy_iff {sign : Sign} {mantissa : Nat} {exponent reached : Int}
    {accuracy : Accuracy} {em : ExtendedMantissa}
    (first : shiftToTargetExponent .binary64 mantissa exponent accuracy = (em, reached))
    (low : -1074 ≤ reached) (bounded : em.roundedMantissa ≤ 2 ^ 53) :
    Fits (roundWithAccuracy .binary64 sign mantissa exponent accuracy) ↔
      em.roundedMantissa = 0 ∨ reached < 971 ∨ reached = 971 ∧ em.roundedMantissa < 2 ^ 53 := by
  have second := shiftToTargetExponent_rounded low bounded
  by_cases small : em.roundedMantissa < 2 ^ 53
  · rw [if_pos small] at second
    simp only [roundWithAccuracy, first, second]
    split
    · simp [*]
    · rw [fits_finite_iff]
      omega
  · rw [if_neg small] at second
    simp only [roundWithAccuracy, first, second]
    rw [dif_neg (by decide), fits_finite_iff]
    omega

theorem mantissa_ofMantissaAndAccuracy (mantissa : Nat) (accuracy : Accuracy) :
    (ExtendedMantissa.ofMantissaAndAccuracy mantissa accuracy).mantissa = mantissa := by
  rcases accuracy with - | (- | - | -) <;> rfl

section Overflow

variable {y : ℚ} {exponent : Int}

theorem lt_overflow_of_lt (small : y < 2 ^ 53) (low : exponent < 971) :
    y * 2 ^ exponent < overflow := by
  have power : (2 : ℚ) ^ exponent ≤ 2 ^ (970 : ℤ) :=
    zpow_le_zpow_right₀ one_le_two (Int.le_of_lt_add_one low)
  have unit : (0 : ℚ) < 2 ^ (970 : ℤ) := by positivity
  calc
    y * 2 ^ exponent < 2 ^ 53 * 2 ^ exponent := mul_lt_mul_of_pos_right small (by positivity)
    _ ≤ 2 ^ 53 * 2 ^ (970 : ℤ) := mul_le_mul_of_nonneg_left power (by positivity)
    _ ≤ overflow := by
      rw [overflow]
      exact mul_le_mul_of_nonneg_right (by norm_num) unit.le

theorem lt_overflow_iff (middle : exponent = 971) :
    y * 2 ^ exponent < overflow ↔ 2 * y + 1 < 2 ^ 54 := by
  have unit : (0 : ℚ) < 2 ^ (970 : ℤ) := by positivity
  have double : (2 : ℚ) ^ exponent = 2 * 2 ^ (970 : ℤ) := by
    rw [middle, ← zpow_one_add₀ two_ne_zero]
    rfl
  rw [overflow, double, ← mul_assoc, mul_lt_mul_iff_left₀ unit]
  constructor <;> intro below <;> linarith

theorem overflow_le_of_le (great : 2 ^ 52 ≤ y) (high : 971 < exponent) :
    overflow ≤ y * 2 ^ exponent := by
  have power : (2 : ℚ) ^ (972 : ℤ) ≤ 2 ^ exponent := zpow_le_zpow_right₀ one_le_two high
  have fourfold : (2 : ℚ) ^ (972 : ℤ) = 4 * 2 ^ (970 : ℤ) := by
    rw [show (972 : ℤ) = 2 + 970 from rfl, zpow_add₀ two_ne_zero]
    norm_num
  have unit : (0 : ℚ) < 2 ^ (970 : ℤ) := by positivity
  calc
    overflow ≤ 2 ^ 52 * 2 ^ (972 : ℤ) := by
      rw [overflow, fourfold, ← mul_assoc]
      exact mul_le_mul_of_nonneg_right (by norm_num) unit.le
    _ ≤ y * 2 ^ exponent := mul_le_mul great power (by positivity) (by linarith)

end Overflow

section Shifted

variable {mantissa shift : Nat} {exponent : Int} {x : ℚ}
  (shifted : target mantissa exponent = exponent + shift)

include shifted

theorem div_two_pow_lt (above : x < mantissa + 1) : x / 2 ^ shift < 2 ^ 53 := by
  have narrow : mantissa.log2 + 1 ≤ 53 + shift := by
    rw [target] at shifted
    omega
  have fits : mantissa + 1 ≤ 2 ^ 53 * 2 ^ shift := by
    rw [← Nat.pow_add]
    exact Nat.lt_log2_self.trans_le (Nat.pow_le_pow_right Nat.two_pos narrow)
  rw [div_lt_iff₀ (by positivity)]
  exact lt_of_lt_of_le above (by exact_mod_cast fits)

theorem le_div_two_pow (normal : -1074 < exponent + shift) (upTo : mantissa ≤ x) :
    2 ^ 52 ≤ x / 2 ^ shift := by
  have wide : 52 + shift = mantissa.log2 := by
    rw [target] at shifted
    omega
  have positive : mantissa ≠ 0 := by
    rintro rfl
    rw [Nat.log2_zero] at wide
    omega
  have great : 2 ^ 52 * 2 ^ shift ≤ mantissa := by
    rw [← Nat.pow_add, wide]
    exact Nat.log2_self_le positive
  rw [le_div_iff₀ (by positivity)]
  exact le_trans (by exact_mod_cast great) upTo

end Shifted

/-- A rounded result is finite just if the exact one lies below the overflow, provided that its
exponent need not be decreased. -/
theorem fits_roundWithAccuracy {sign : Sign} {mantissa : Nat} {exponent : Int}
    {accuracy : Accuracy} {x : ℚ}
    (truncates : Truncates (.ofMantissaAndAccuracy mantissa accuracy) x)
    (low : exponent ≤ target mantissa exponent) :
    Fits (roundWithAccuracy .binary64 sign mantissa exponent accuracy) ↔
      x * 2 ^ exponent < overflow := by
  have upTo := truncates.mantissa_le
  have above := truncates.lt_succ
  rw [mantissa_ofMantissaAndAccuracy] at upTo above
  obtain ⟨shift, shifted⟩ : ∃ shift : Nat, target mantissa exponent = exponent + shift :=
    ⟨(target mantissa exponent - exponent).toNat, by omega⟩
  obtain ⟨em, made⟩ :
      ∃ em, em = ExtendedMantissa.ofMantissaAndAccuracy mantissa accuracy >>> shift := ⟨_, rfl⟩
  have first : shiftToTargetExponent .binary64 mantissa exponent accuracy =
      (em, exponent + shift) := by
    rw [shiftToTargetExponent_eq, shifted, made]
    congr <;> omega
  have reduced : Truncates em (x / 2 ^ shift) := made ▸ truncates.shiftRight shift
  have same : x * 2 ^ exponent = x / 2 ^ shift * 2 ^ (exponent + shift) := by
    rw [zpow_add₀ two_ne_zero, zpow_natCast, mul_comm (2 ^ exponent), ← mul_assoc,
      div_mul_cancel₀ x (by positivity)]
  have least : -1074 ≤ exponent + shift := shifted ▸ le_max_right ..
  have below := div_two_pow_lt shifted above
  have small : em.mantissa < 2 ^ 53 := by
    have := lt_of_le_of_lt reduced.mantissa_le below
    exact_mod_cast this
  have bounded : em.roundedMantissa ≤ 2 ^ 53 := (roundedMantissa_le_succ em).trans small
  rw [fits_roundWithAccuracy_iff first least bounded, same]
  -- only at the greatest exponent of finite doubles it matters whether the mantissa is carried
  rcases lt_trichotomy (exponent + shift) 971 with short | middle | high
  · exact iff_of_true (.inr (.inl short)) (lt_overflow_of_lt below short)
  · rw [lt_overflow_iff middle, ← reduced.roundedMantissa_lt_iff small]
    omega
  · have great := le_div_two_pow shifted (by omega) upTo
    have filled : 2 ^ 52 < em.mantissa + 1 := by
      have := lt_of_le_of_lt great reduced.lt_succ
      exact_mod_cast this
    have := mantissa_le_roundedMantissa em
    exact iff_of_false (by omega) (not_lt.mpr (overflow_le_of_le great high))

theorem log2_mul_two_pow {n : Nat} (positive : 0 < n) (shift : Nat) :
    (n * 2 ^ shift).log2 = n.log2 + shift := by
  rw [Nat.log2_eq_iff (Nat.mul_pos positive (Nat.two_pow_pos shift)).ne', Nat.add_right_comm,
    Nat.pow_add, Nat.pow_add]
  exact ⟨Nat.mul_le_mul_right _ (Nat.log2_self_le positive.ne'),
    Nat.mul_lt_mul_of_pos_right Nat.lt_log2_self (Nat.two_pow_pos shift)⟩

theorem fits_round {sign : Sign} {mantissa : Nat} (positive : 0 < mantissa) (exponent : Int) :
    Fits (round .binary64 sign mantissa exponent) ↔ mantissa * 2 ^ exponent < overflow := by
  obtain ⟨shift, chosen⟩ : ∃ shift, shift = (exponent - target mantissa exponent).toNat := ⟨_, rfl⟩
  have decreased : decreaseExponent mantissa exponent (target mantissa exponent) =
      (mantissa * 2 ^ shift, exponent - shift) := by
    rw [decreaseExponent, ← chosen, Nat.shiftLeft_eq]
  have low : exponent - shift ≤ target (mantissa * 2 ^ shift) (exponent - shift) := by
    rw [target] at chosen ⊢
    rw [log2_mul_two_pow positive]
    omega
  have same : ((mantissa * 2 ^ shift : Nat) : ℚ) * 2 ^ (exponent - shift : Int) =
      mantissa * 2 ^ exponent := by
    rw [Nat.cast_mul, Nat.cast_pow, Nat.cast_ofNat, mul_assoc, ← zpow_natCast,
      ← zpow_add₀ two_ne_zero, add_sub_cancel]
  rw [UnpackedFloat.round, targetExponent_eq, decreased,
    fits_roundWithAccuracy (truncates_exact _) low, same]

theorem fits_normalize (mantissa exponent : Int) (zeroSign : Sign) :
    Fits (normalize .binary64 mantissa exponent zeroSign) ↔
      |(mantissa : ℚ) * 2 ^ exponent| < overflow := by
  have unit : (0 : ℚ) < 2 ^ exponent := by positivity
  rw [abs_mul, abs_of_pos unit, UnpackedFloat.normalize]
  rcases lt_trichotomy mantissa 0 with negative | rfl | positive
  · have whole : ((-mantissa).toNat : ℚ) = |(mantissa : ℚ)| := by
      rw [abs_of_neg (Int.cast_lt_zero.mpr negative), ← Int.cast_neg,
        ← Int.toNat_of_nonneg (by omega : 0 ≤ -mantissa)]
      rfl
    rw [Int.compare_eq_lt.mpr negative, ← whole]
    exact fits_round (by omega) exponent
  · rw [Int.cast_zero, abs_zero, zero_mul]
    exact iff_of_true (fits_zero zeroSign) overflow_pos
  · have whole : (mantissa.toNat : ℚ) = |(mantissa : ℚ)| := by
      rw [abs_of_pos (Int.cast_pos.mpr positive), ← Int.toNat_of_nonneg positive.le]
      rfl
    rw [Int.compare_eq_gt.mpr positive, ← whole]
    exact fits_round (by omega) exponent

end Rounding

section Unpacking

/-- A finite double taken apart into a sign, a mantissa and an exponent, and the number it is. -/
inductive Unpacks : UnpackedFloat → ℚ → Prop where
  | zero (sign : Sign) : Unpacks (.zero sign) 0
  | finite (sign : Sign) {mantissa : Nat} {exponent : Int} (positive : 0 < mantissa)
      (narrow : mantissa < 2 ^ 53) (least : -1074 ≤ exponent) (most : exponent ≤ 971)
      (canonical : 2 ^ 52 ≤ mantissa ∨ exponent = -1074) :
      Unpacks (.finite sign mantissa exponent positive)
        ((sign.apply mantissa : ℤ) * 2 ^ exponent)

/-- The number that a finite double is. -/
def value (x : Float) : ℚ := (if isNegative x then -1 else 1) * (scaled (magnitude x) / scale)

theorem value_eq_zero_iff {x : Float} : value x = 0 ↔ magnitude x = 0 := by
  have origin : scaled 0 = 0 := scaled_of_lt binade_pos
  have unit : (scale : ℚ) ≠ 0 := Nat.cast_ne_zero.mpr scale_pos.ne'
  have sign : (if isNegative x then -1 else 1 : ℚ) ≠ 0 := by split <;> norm_num
  rw [value, mul_eq_zero, div_eq_zero_iff, Nat.cast_eq_zero, or_iff_right sign, or_iff_left unit,
    scaled_strictMono.injective.eq_iff' origin]

theorem scaled_div_scale {k mantissa shift : Nat} (own : scaled k = mantissa * 2 ^ shift) :
    (scaled k / scale : ℚ) = mantissa * 2 ^ (shift - 1074 : ℤ) := by
  obtain ⟨bits, counted⟩ : ∃ bits : Nat, bits = 1074 := ⟨_, rfl⟩
  have whole : (1074 : ℤ) = bits := by
    rw [counted]
    rfl
  rw [own, scale_eq counted, whole, Nat.cast_mul, Nat.cast_pow, Nat.cast_pow, Nat.cast_ofNat,
    mul_div_assoc, zpow_sub₀ two_ne_zero, zpow_natCast, zpow_natCast]

theorem toNat_unpackSign (bits : BitVec 64) :
    (@unpackSign .binary64 bits).toNat = bits.toNat / 2 ^ 63 % 2 := by
  rw [unpackSign_def, BitVec.extractLsb'_toNat, Nat.shiftRight_eq_div_pow]
  rfl

theorem apply_sign (x : Float) (n : Int) :
    (Sign.ofBitVec (@unpackSign .binary64 x.toBits.toBitVec)).apply n =
      if isNegative x then -n else n := by
  have bounded := toBits_lt x
  have bit := toNat_unpackSign x.toBits.toBitVec
  have word : x.toBits.toBitVec.toNat = x.toBits.toNat := rfl
  have set : @unpackSign .binary64 x.toBits.toBitVec = 0#1 ↔ isNegative x = false := by
    rw [← BitVec.toNat_inj, bit, word, isNegative, signBit_eq, decide_eq_false_iff_not,
      BitVec.toNat_zero]
    omega
  rw [Sign.ofBitVec]
  by_cases negative : isNegative x = true
  · rw [if_neg (by simp [set, negative]), if_pos negative]
    rfl
  · rw [if_pos (set.mpr (Bool.eq_false_iff.mpr negative)), if_neg negative]
    rfl

theorem value_eq {x : Float} {mantissa shift : Nat}
    (own : scaled (magnitude x) = mantissa * 2 ^ shift) :
    value x = ((Sign.ofBitVec (@unpackSign .binary64 x.toBits.toBitVec)).apply mantissa : ℤ) *
      2 ^ (shift - 1074 : ℤ) := by
  rw [value, scaled_div_scale own, apply_sign]
  split <;> simp

/-- The magnitude is the exponent and the mantissa, one behind the other. -/
theorem magnitude_eq_fields (x : Float) :
    magnitude x = (@unpackExponent .binary64 x.toBits.toBitVec).toNat * 2 ^ 52 +
      (@unpackMantissa .binary64 x.toBits.toBitVec).toNat := by
  have bounded := toBits_lt x
  rw [magnitude, signBit_eq, toNat_unpackExponent, toNat_unpackMantissa]
  show x.toBits.toNat % 2 ^ 63 =
    x.toBits.toNat / 2 ^ 52 % 2 ^ 11 * 2 ^ 52 + x.toBits.toNat % 2 ^ 52
  omega

theorem bias_add_mantissaBits : Format.exponentBias .binary64 +
    Format.mantissaBitsWithoutImplicit .binary64 = 1075 := rfl

/-- Under the exponent zero the mantissa stands for itself, in the unit of the least double. -/
theorem unpacks_subnormal {x : Float}
    (subnormal : @unpackExponent .binary64 x.toBits.toBitVec = 0#11) :
    Unpacks (UnpackedFloat.unpack .binary64 x.toBits.toBitVec) (value x) := by
  have bias := bias_add_mantissaBits
  have small : (@unpackMantissa .binary64 x.toBits.toBitVec).toNat < 2 ^ 52 := BitVec.isLt _
  have fields := magnitude_eq_fields x
  rw [subnormal, BitVec.toNat_zero, Nat.zero_mul, Nat.zero_add] at fields
  have own : scaled (magnitude x) =
      (@unpackMantissa .binary64 x.toBits.toBitVec).toNat * 2 ^ 0 := by
    rw [fields, scaled_of_lt small, Nat.pow_zero, Nat.mul_one]
  rw [UnpackedFloat.unpack, if_neg (by rw [subnormal]; decide), if_pos subnormal]
  split
  · have none : magnitude x = 0 := by
      rw [fields]
      exact congrArg BitVec.toNat ‹_›
    rw [value_eq_zero_iff.mpr none]
    exact .zero _
  · have least : (@unpackExponent .binary64 x.toBits.toBitVec).toNat - (1075 : Int) + 1 =
        (0 : Nat) - 1074 := by
      rw [subnormal]
      rfl
    have narrow : (@unpackMantissa .binary64 x.toBits.toBitVec).toNat < 2 ^ 53 := by omega
    rw [value_eq own, ← least]
    exact .finite _ _ narrow (by omega) (by omega) (.inr (by omega))

/-- Under any other exponent the mantissa has one more bit, which is set. -/
theorem unpacks_normal {x : Float}
    (normal : @unpackExponent .binary64 x.toBits.toBitVec ≠ 0#11)
    (proper : @unpackExponent .binary64 x.toBits.toBitVec ≠ -1#11) :
    Unpacks (UnpackedFloat.unpack .binary64 x.toBits.toBitVec) (value x) := by
  have bias := bias_add_mantissaBits
  have small : (@unpackMantissa .binary64 x.toBits.toBitVec).toNat < 2 ^ 52 := BitVec.isLt _
  have bounded : (@unpackExponent .binary64 x.toBits.toBitVec).toNat < 2 ^ 11 := BitVec.isLt _
  have below : (@unpackExponent .binary64 x.toBits.toBitVec).toNat ≠ 2047 := fun full =>
    proper (BitVec.eq_of_toNat_eq full)
  have positive : (@unpackExponent .binary64 x.toBits.toBitVec).toNat ≠ 0 := fun none =>
    normal (BitVec.eq_of_toNat_eq none)
  obtain ⟨shift, reached⟩ := Nat.exists_eq_succ_of_ne_zero positive
  have own : scaled (magnitude x) =
      (2 ^ 52 + (@unpackMantissa .binary64 x.toBits.toBitVec).toNat) * 2 ^ shift := by
    rw [magnitude_eq_fields, reached]
    exact scaled_normal small.le shift
  have widened : (1#1 ++ @unpackMantissa .binary64 x.toBits.toBitVec).toNat =
      2 ^ 52 + (@unpackMantissa .binary64 x.toBits.toBitVec).toNat := by
    rw [BitVec.toNat_append]
    exact (Nat.two_pow_add_eq_or_of_lt small 1).symm
  have same : (@unpackExponent .binary64 x.toBits.toBitVec).toNat - (1075 : Int) =
      shift - 1074 := by omega
  rw [UnpackedFloat.unpack, if_neg proper, if_neg normal, value_eq own, ← same, ← widened]
  exact .finite _ _ (by omega) (by omega) (by omega) (.inl (by omega))

theorem unpacks {x : Float} (finite : x.isFinite = true) :
    Unpacks x.toModel.unpack (value x) := by
  have proper : @unpackExponent .binary64 x.toBits.toBitVec ≠ -1#11 := by
    rw [ne_eq, unpackExponent_eq_ones_iff]
    exact (isFinite_unpack_iff _).mp finite
  by_cases subnormal : @unpackExponent .binary64 x.toBits.toBitVec = 0#11
  · exact unpacks_subnormal subnormal
  · exact unpacks_normal subnormal proper

end Unpacking

section Operations

variable {u v : UnpackedFloat} {p q : ℚ}

theorem abs_apply (sign : Sign) (mantissa : Nat) (exponent : Int) :
    |((sign.apply mantissa : ℤ) : ℚ) * 2 ^ exponent| = mantissa * 2 ^ exponent := by
  have unit : (0 : ℚ) < 2 ^ exponent := by positivity
  rw [abs_mul, abs_of_pos unit]
  cases sign <;> simp [Sign.apply]

theorem Unpacks.abs_lt (unpacks : Unpacks u p) : |p| < overflow := by
  cases unpacks with
  | zero sign => simpa using overflow_pos
  | @finite sign mantissa exponent positive narrow least most canonical =>
      rw [abs_apply]
      rcases lt_or_eq_of_le most with low | last
      · exact lt_overflow_of_lt (by exact_mod_cast narrow) low
      · rw [lt_overflow_iff last]
        exact_mod_cast (by omega : 2 * mantissa + 1 < 2 ^ 54)

theorem Unpacks.fits (unpacks : Unpacks u p) : Fits u := by
  cases unpacks with
  | zero sign => exact fits_zero sign
  | finite sign positive narrow least most canonical =>
      exact fits_finite_iff.mpr (by omega)

theorem apply_decreased (sign : Sign) (mantissa : Nat) {exponent lower : Int}
    (descending : lower ≤ exponent) :
    ((sign.apply (decreaseExponent mantissa exponent lower).1 : ℤ) : ℚ) * 2 ^ lower =
      (sign.apply mantissa : ℤ) * 2 ^ exponent := by
  obtain ⟨shift, rfl⟩ := Int.le.dest descending
  have shifted : (decreaseExponent mantissa (lower + shift) lower).1 = mantissa * 2 ^ shift := by
    rw [decreaseExponent, Nat.shiftLeft_eq, add_sub_cancel_left, Int.toNat_natCast]
  rw [shifted, zpow_add₀ two_ne_zero, zpow_natCast]
  cases sign <;> simp [Sign.apply] <;> ring

theorem neg_apply (sign : Sign) (n : Int) : (-sign).apply n = -sign.apply n := by
  cases sign
  · exact (neg_neg n).symm
  · rfl

theorem Unpacks.neg (unpacks : Unpacks u p) : Unpacks u.neg (-p) := by
  cases unpacks with
  | zero sign =>
      rw [neg_zero]
      exact .zero _
  | finite sign positive narrow least most canonical =>
      rw [← neg_mul, ← Int.cast_neg, ← neg_apply]
      exact .finite (-sign) positive narrow least most canonical

theorem Unpacks.fits_add (left : Unpacks u p) (right : Unpacks v q) :
    Fits (u.add .binary64 v) ↔ |p + q| < overflow := by
  have fits := left.fits
  have fits' := right.fits
  have inside := left.abs_lt
  have inside' := right.abs_lt
  cases left with
  | zero sign =>
      rw [zero_add]
      cases right with
      | zero sign' =>
          refine iff_of_true ?_ inside'
          rw [UnpackedFloat.add]
          split <;> exact fits_zero _
      | finite => exact iff_of_true fits' inside'
  | @finite sign mantissa exponent =>
      cases right with
      | zero sign' =>
          rw [add_zero]
          exact iff_of_true fits inside
      | @finite sign' mantissa' exponent' =>
          rw [UnpackedFloat.add, fits_normalize, Int.cast_add, add_mul,
            apply_decreased sign mantissa (min_le_left ..),
            apply_decreased sign' mantissa' (min_le_right ..)]

theorem sub_eq_add (u v : UnpackedFloat) : u.sub .binary64 v = u.add .binary64 v.neg := by
  cases u <;> cases v <;> try rfl
  simp only [UnpackedFloat.sub, UnpackedFloat.neg, UnpackedFloat.add, neg_apply, Int.sub_eq_add_neg]

theorem Unpacks.fits_sub (left : Unpacks u p) (right : Unpacks v q) :
    Fits (u.sub .binary64 v) ↔ |p - q| < overflow := by
  rw [sub_eq_add, left.fits_add right.neg, sub_eq_add_neg]

theorem Unpacks.fits_mul (left : Unpacks u p) (right : Unpacks v q) :
    Fits (u.mul .binary64 v) ↔ |p * q| < overflow := by
  cases left with
  | zero sign =>
      rw [zero_mul, abs_zero]
      cases right <;> exact iff_of_true (fits_zero _) overflow_pos
  | @finite sign mantissa exponent positive narrow least most canonical =>
      cases right with
      | zero sign' =>
          rw [mul_zero, abs_zero]
          exact iff_of_true (fits_zero _) overflow_pos
      | @finite sign' mantissa' exponent' positive' narrow' least' most' canonical' =>
          have low : exponent + exponent' ≤
              target (mantissa * mantissa') (exponent + exponent') := by
            rcases canonical with wide | lowest
            · exact le_target_of_wide (wide.trans (Nat.le_mul_of_pos_right _ positive'))
            · rcases canonical' with wide | lowest'
              · exact le_target_of_wide (wide.trans (Nat.le_mul_of_pos_left _ positive))
              · exact le_target_of_low (by omega)
          rw [UnpackedFloat.mul, fits_roundWithAccuracy (truncates_exact _) low, abs_mul, abs_apply,
            abs_apply, zpow_add₀ two_ne_zero, Nat.cast_mul, mul_mul_mul_comm]

/-- The division of the mantissas, after the dividend is widened such that the quotient has at least
53 bits or the least exponent. -/
theorem exists_divCore_eq {mantissa mantissa' : Nat} (positive : 0 < mantissa)
    (positive' : 0 < mantissa') (exponent exponent' : Int) :
    ∃ (shift : Nat) (lower : Int),
      divCore .binary64 mantissa exponent mantissa' exponent' =
        (mantissa * 2 ^ shift / mantissa', lower,
          accuracyOfFraction (mantissa * 2 ^ shift % mantissa') mantissa') ∧
      lower ≤ target (mantissa * 2 ^ shift / mantissa') lower ∧
      shift + lower = exponent - exponent' := by
  obtain ⟨lower, chosen⟩ : ∃ lower, lower = min (exponent - exponent')
      (max (mantissa.log2 + exponent - (mantissa'.log2 + exponent') - 53) (-1074)) := ⟨_, rfl⟩
  obtain ⟨shift, widened⟩ : ∃ shift, shift = (exponent - exponent' - lower).toNat := ⟨_, rfl⟩
  have wanted : Format.binary64.targetExponent
      (totalExponent mantissa exponent - totalExponent mantissa' exponent') =
      max (mantissa.log2 + exponent - (mantissa'.log2 + exponent') - 53) (-1074) := by
    simp only [Format.targetExponent, totalExponent, Format.mantissaBits, Format.minExponent]
    omega
  refine ⟨shift, lower, ?_, ?_, by omega⟩
  · rw [divCore, wanted, ← chosen, ← widened, Nat.shiftLeft_eq]
  · by_cases lowest : lower ≤ -1074
    · exact le_target_of_low lowest
    · refine le_target_of_wide ((Nat.le_div_iff_mul_le positive').mpr ?_)
      calc
        2 ^ 52 * mantissa' ≤ 2 ^ 52 * 2 ^ (mantissa'.log2 + 1) :=
          Nat.mul_le_mul_left _ Nat.lt_log2_self.le
        _ ≤ 2 ^ (mantissa.log2 + shift) := by
          rw [← Nat.pow_add]
          exact Nat.pow_le_pow_right Nat.two_pos (by omega)
        _ ≤ mantissa * 2 ^ shift := by
          rw [Nat.pow_add]
          exact Nat.mul_le_mul_right _ (Nat.log2_self_le positive.ne')

theorem Unpacks.fits_div (left : Unpacks u p) (right : Unpacks v q) (nonzero : q ≠ 0) :
    Fits (u.div .binary64 v) ↔ |p / q| < overflow := by
  cases right with
  | zero sign' => exact absurd rfl nonzero
  | @finite sign' mantissa' exponent' positive' narrow' least' most' canonical' =>
      cases left with
      | zero sign =>
          rw [zero_div, abs_zero]
          exact iff_of_true (fits_zero _) overflow_pos
      | @finite sign mantissa exponent positive narrow least most canonical =>
          obtain ⟨shift, lower, made, low, whole⟩ :=
            exists_divCore_eq positive positive' exponent exponent'
          have positiveDen : (0 : ℚ) < mantissa' := Nat.cast_pos.mpr positive'
          have ratio : ((mantissa * 2 ^ shift : Nat) / mantissa' : ℚ) * 2 ^ lower =
              mantissa * 2 ^ exponent / (mantissa' * 2 ^ exponent') := by
            rw [Nat.cast_mul, Nat.cast_pow, Nat.cast_ofNat, ← zpow_natCast, div_mul_eq_mul_div,
              mul_assoc, ← zpow_add₀ two_ne_zero, whole, zpow_sub₀ two_ne_zero, mul_div_assoc',
              div_div, mul_comm (2 ^ exponent')]
          rw [UnpackedFloat.div, made]
          show Fits (roundWithAccuracy .binary64 _ _ _ _) ↔ _
          rw [fits_roundWithAccuracy (truncates_quotient _ positive') low, ratio, abs_div,
            abs_apply, abs_apply]

end Operations

section NotFinite

variable {u v : UnpackedFloat}

theorem isFinite_of_fits_add (fits : Fits (u.add .binary64 v)) :
    u.isFinite = true ∧ v.isFinite = true := by
  cases u <;> cases v <;> simp_all [UnpackedFloat.add, UnpackedFloat.isFinite]
  split at fits <;> simp at fits

theorem isFinite_of_fits_mul (fits : Fits (u.mul .binary64 v)) :
    u.isFinite = true ∧ v.isFinite = true := by
  cases u <;> cases v <;> simp_all [UnpackedFloat.mul, UnpackedFloat.isFinite]

theorem isFinite_neg (u : UnpackedFloat) : u.neg.isFinite = u.isFinite := by
  cases u <;> rfl

theorem isFinite_of_fits_sub (fits : Fits (u.sub .binary64 v)) :
    u.isFinite = true ∧ v.isFinite = true := by
  rw [sub_eq_add] at fits
  have finite := isFinite_of_fits_add fits
  rwa [isFinite_neg] at finite

theorem isFinite_of_fits_div (fits : Fits (u.div .binary64 v)) :
    u.isFinite = true ∧ (v.isFinite = true ∨ v.isInf = true) := by
  cases u <;> cases v <;>
    simp_all [UnpackedFloat.div, UnpackedFloat.isFinite, UnpackedFloat.isInf]

theorem fits_div_infinity (finite : u.isFinite = true) (infinite : v.isInf = true) :
    Fits (u.div .binary64 v) := by
  cases v with
  | infinity sign =>
      cases u with
      | infinity | notANumber => cases finite
      | zero | finite => exact fits_zero _
  | zero | finite | notANumber => cases infinite

end NotFinite

section Doubles

variable {a b : Float}

/-- An operation that is strict and rounds its exact result. -/
theorem fits_iff_of_strict {result : UnpackedFloat} {exact : ℚ}
    (strict : Fits result → a.isFinite = true ∧ b.isFinite = true)
    (rounds : a.isFinite = true → b.isFinite = true → (Fits result ↔ |exact| < overflow)) :
    Fits result ↔ a.isFinite = true ∧ b.isFinite = true ∧ |exact| < overflow := by
  constructor
  · intro fits
    obtain ⟨left, right⟩ := strict fits
    exact ⟨left, right, (rounds left right).mp fits⟩
  · rintro ⟨left, right, below⟩
    exact (rounds left right).mpr below

theorem isFinite_add_iff : (a + b).isFinite = true ↔
    a.isFinite = true ∧ b.isFinite = true ∧ |value a + value b| < overflow :=
  fits_iff_of_strict isFinite_of_fits_add fun left right =>
    (unpacks left).fits_add (unpacks right)

theorem isFinite_sub_iff : (a - b).isFinite = true ↔
    a.isFinite = true ∧ b.isFinite = true ∧ |value a - value b| < overflow :=
  fits_iff_of_strict isFinite_of_fits_sub fun left right =>
    (unpacks left).fits_sub (unpacks right)

theorem isFinite_mul_iff : (a * b).isFinite = true ↔
    a.isFinite = true ∧ b.isFinite = true ∧ |value a * value b| < overflow :=
  fits_iff_of_strict isFinite_of_fits_mul fun left right =>
    (unpacks left).fits_mul (unpacks right)

theorem isFinite_div_iff (nonzero : magnitude b ≠ 0) : (a / b).isFinite = true ↔
    a.isFinite = true ∧
      (b.isFinite = true ∧ |value a / value b| < overflow ∨ b.isInf = true) := by
  have nonzero : value b ≠ 0 := mt value_eq_zero_iff.mp nonzero
  show Fits (a.toModel.unpack.div .binary64 b.toModel.unpack) ↔ _
  constructor
  · intro fits
    obtain ⟨left, right | infinite⟩ := isFinite_of_fits_div fits
    · exact ⟨left, .inl ⟨right, ((unpacks left).fits_div (unpacks right) nonzero).mp fits⟩⟩
    · exact ⟨left, .inr infinite⟩
  · rintro ⟨left, ⟨right, below⟩ | infinite⟩
    · exact ((unpacks left).fits_div (unpacks right) nonzero).mpr below
    · exact fits_div_infinity left infinite

/-- What is left of a finite number is finite, since it is no greater. -/
theorem isFinite_remainder_iff (nonzero : magnitude b ≠ 0) : (remainder a b).isFinite = true ↔
    a.isFinite = true ∧ (b.isFinite = true ∨ b.isInf = true) := by
  have refused : (a.isNaN || b.isNaN || magnitude a == infinity || magnitude b == 0) = false ↔
      a.isFinite = true ∧ (b.isFinite = true ∨ b.isInf = true) := by
    have whole : a.isFinite = true → magnitude a ≠ infinity := fun finite =>
      ((isFinite_iff a).mp finite).ne
    have split := isNaN_eq_false_iff a
    rw [isInf_iff] at split
    simp only [Bool.or_eq_false_iff, beq_eq_false_iff_ne, split, isNaN_eq_false_iff b]
    tauto
  rw [← refused, remainder]
  by_cases none : (a.isNaN || b.isNaN || magnitude a == infinity || magnitude b == 0) = true
  · rw [if_pos none, none]
    exact iff_of_false Bool.false_ne_true (fun same => Bool.noConfusion same)
  · have finite : a.isFinite = true := (refused.mp (Bool.eq_false_iff.mpr none)).1
    rw [if_neg none]
    refine iff_of_true ?_ (Bool.eq_false_iff.mpr none)
    split
    · exact finite
    · have below := (isFinite_iff a).mp finite
      refine isFinite_ofMagnitude _ (lt_of_le_of_lt ?_ below)
      calc
        nearest (scaled (magnitude a) % scaled (magnitude b)) scale
          ≤ nearest (scaled (magnitude a)) scale :=
          nearest_mono scale_pos scale_pos (Nat.mul_le_mul_right scale (Nat.mod_le ..))
        _ = magnitude a := nearest_scaled below scale_pos rfl

end Doubles

end Flowline.Binary64
