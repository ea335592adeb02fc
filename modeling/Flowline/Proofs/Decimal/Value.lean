import Flowline.Proofs.Decimal.Nearest
import Flowline.Decimal.Shortest

/-!
What a decimal stands for. It rounds as the fraction that it is, the limits on its exponent being no
more than shortcuts, and the digits chosen for a magnitude round back to it.
-/

namespace Flowline

namespace Binary64

section Limits

variable {num den : Nat}

theorem nearest_eq_infinity (fraction : 0 < den) (great : scaled infinity * den ≤ num * scale) :
    nearest num den = infinity := by
  have positive : 0 < infinity := by decide
  refine Nat.le_antisymm (nearest_le_infinity fraction) ?_
  have passed : passes num den (infinity - 1) = true := by
    refine passes_iff.mpr ⟨Nat.sub_lt positive Nat.one_pos, .inl ?_⟩
    have below := halfway_lt_two_scaled (infinity - 1)
    rw [Nat.sub_add_cancel positive] at below
    calc
      halfway (infinity - 1) * den < 2 * scaled infinity * den :=
        Nat.mul_lt_mul_of_pos_right below fraction
      _ = 2 * (scaled infinity * den) := Nat.mul_assoc ..
      _ ≤ 2 * (num * scale) := Nat.mul_le_mul_left 2 great
      _ = num * (2 * scale) := Nat.mul_left_comm ..
  have := (passes_iff_lt_nearest fraction _).mp passed
  omega

theorem nearest_eq_zero (fraction : 0 < den) (small : num * (2 * scale) ≤ den) :
    nearest num den = 0 := by
  by_contra reached
  have passed := (passes_iff_lt_nearest fraction 0).mpr (Nat.pos_of_ne_zero reached)
  have first : halfway 0 = 1 := by decide
  rw [passes_iff, first, Nat.one_mul] at passed
  omega

end Limits

end Binary64

namespace Decimal

open Binary64

/-- The fraction that a decimal is. -/
def numerator (d : Decimal) : Nat := d.digits * 10 ^ d.exponent.toNat

def denominator (d : Decimal) : Nat := 10 ^ (-d.exponent).toNat

theorem denominator_pos (d : Decimal) : 0 < d.denominator := Nat.pow_pos (by decide)

theorem lt_pow_digitCount (n : Nat) : n < 10 ^ digitCount n :=
  (Nat.length_toDigits_le_iff (by decide) Nat.length_toDigits_pos).mp (Nat.le_refl _)

theorem nearestMagnitude_eq (d : Decimal) :
    d.nearestMagnitude = nearest d.numerator d.denominator := by
  obtain ⟨limit, limited, great, tiny⟩ : ∃ limit, limit = 401 ∧
      scaled infinity ≤ 10 ^ limit * scale ∧ 2 * scale ≤ 10 ^ limit :=
    ⟨401, rfl, by decide +kernel, by decide +kernel⟩
  rw [nearestMagnitude, numerator, denominator]
  by_cases none : d.digits = 0
  · rw [if_pos none, none, Nat.zero_mul, nearest_zero (Nat.pow_pos (by decide))]
  · rw [if_neg none]
    by_cases whole : 0 ≤ d.exponent
    · have single : (-d.exponent).toNat = 0 := by omega
      rw [if_pos whole, single, Nat.pow_zero]
      by_cases far : 400 < d.exponent
      · rw [if_pos far, nearest_eq_infinity Nat.one_pos]
        rw [Nat.mul_one]
        refine great.trans (Nat.mul_le_mul_right scale ?_)
        calc
          10 ^ limit ≤ 10 ^ d.exponent.toNat := Nat.pow_le_pow_right (by decide) (by omega)
          _ ≤ d.digits * 10 ^ d.exponent.toNat :=
            Nat.le_mul_of_pos_left _ (Nat.pos_of_ne_zero none)
      · rw [if_neg far]
        rfl
    · have single : d.exponent.toNat = 0 := by omega
      rw [if_neg whole, single, Nat.pow_zero, Nat.mul_one]
      by_cases far : d.exponent + digitCount d.digits < -400
      · rw [if_pos far, nearest_eq_zero (Nat.pow_pos (by decide))]
        calc
          d.digits * (2 * scale) ≤ 10 ^ digitCount d.digits * 10 ^ limit :=
            Nat.mul_le_mul (lt_pow_digitCount _).le tiny
          _ = 10 ^ (digitCount d.digits + limit) := (Nat.pow_add ..).symm
          _ ≤ 10 ^ (-d.exponent).toNat := Nat.pow_le_pow_right (by decide) (by omega)
      · rw [if_neg far]
        rfl

/-- Decimals of one value. -/
def SameValue (d d' : Decimal) : Prop :=
  d.numerator * d'.denominator = d'.numerator * d.denominator

theorem SameValue.refl (d : Decimal) : SameValue d d := Eq.refl _

theorem SameValue.nearestMagnitude_eq {d d' : Decimal} (same : SameValue d d') :
    d.nearestMagnitude = d'.nearestMagnitude := by
  rw [Decimal.nearestMagnitude_eq, Decimal.nearestMagnitude_eq,
    nearest_congr d.denominator_pos d'.denominator_pos same]

/-- Zeros at the end of whole digits count for the exponent. -/
theorem sameValue_shift (negative negative' : Bool) (digits zeros : Nat) (exponent : Int) :
    SameValue ⟨negative, digits * 10 ^ zeros, exponent⟩ ⟨negative', digits, exponent + zeros⟩ := by
  have balanced : zeros + exponent.toNat + (-(exponent + zeros)).toNat =
      (exponent + zeros).toNat + (-exponent).toNat := by omega
  show digits * 10 ^ zeros * 10 ^ exponent.toNat * 10 ^ (-(exponent + zeros)).toNat =
    digits * 10 ^ (exponent + zeros).toNat * 10 ^ (-exponent).toNat
  rw [Nat.mul_assoc digits, ← Nat.pow_add, Nat.mul_assoc, ← Nat.pow_add, balanced, Nat.mul_assoc,
    ← Nat.pow_add]

section Shortest

variable {k : Nat}

theorem readsBack_iff {digits : Nat} {exponent : Int} :
    readsBack k digits exponent = true ↔
      nearestMagnitude ⟨false, digits, exponent⟩ = k := by
  rw [Decimal.nearestMagnitude_eq, nearest_eq_iff (denominator_pos _), readsBack, numerator,
    denominator]
  by_cases whole : 0 ≤ exponent
  · have single : (-exponent).toNat = 0 := by omega
    rw [if_pos whole, single]
    rfl
  · have single : exponent.toNat = 0 := by omega
    rw [if_neg whole, single, Nat.pow_zero, Nat.mul_one]
    rfl

theorem readsBack_of_onGrid? {num den digits : Nat} {exponent : Int}
    (found : onGrid? k num den exponent = some digits) : readsBack k digits exponent = true := by
  simp only [onGrid?] at found
  split at found
  · rename_i low high
    rw [← Option.some.inj found]
    split
    · exact low
    · exact high
  · rename_i low _
    rw [← Option.some.inj found]
    exact low
  · rename_i _ high
    rw [← Option.some.inj found]
    exact high
  · exact absurd found.symm (Option.some_ne_none _)

theorem readsBack_of_shortestFrom {num den fuel count digits : Nat} {leading exponent : Int}
    (found : shortestFrom k num den leading fuel count = some (digits, exponent)) :
    readsBack k digits exponent = true := by
  induction fuel generalizing count with
  | zero => cases found
  | succ fuel ih =>
      rw [shortestFrom] at found
      cases grid : onGrid? k num den (leading - count + 1) with
      | some best =>
          simp only [grid, Option.some.injEq, Prod.mk.injEq] at found
          rw [← found.1, ← found.2]
          exact readsBack_of_onGrid? grid
      | none =>
          simp only [grid] at found
          exact ih found

/-- The exact expansion of a magnitude reads back. -/
theorem nearestMagnitude_expansion (finite : k < infinity) {bits : Nat} (grid : scale = 2 ^ bits)
    {exponent : Int} (lowest : exponent = -bits) :
    nearestMagnitude ⟨false, scaled k * Nat.pow 5 bits, exponent⟩ = k := by
  rw [Decimal.nearestMagnitude_eq, lowest]
  refine nearest_scaled finite (denominator_pos _) ?_
  have whole : (-(bits : Int)).toNat = 0 := by omega
  have tenfold : 10 ^ bits = Nat.pow 5 bits * 2 ^ bits := Nat.mul_pow 5 2 bits
  rw [numerator, denominator, whole, Int.neg_neg, Int.toNat_natCast, tenfold, grid, Nat.pow_zero,
    Nat.mul_one, Nat.mul_assoc]

theorem nearestMagnitude_negative (negative : Bool) (digits : Nat) (exponent : Int) :
    nearestMagnitude ⟨negative, digits, exponent⟩ = nearestMagnitude ⟨false, digits, exponent⟩ := by
  rw [Decimal.nearestMagnitude_eq, Decimal.nearestMagnitude_eq, numerator, denominator, numerator,
    denominator]

/-- The digits chosen for a magnitude read back as this magnitude. -/
theorem nearestMagnitude_shortest (finite : k < infinity) (negative : Bool) :
    nearestMagnitude ⟨negative, (shortest k).1, (shortest k).2⟩ = k := by
  rw [nearestMagnitude_negative, shortest]
  by_cases zero : k = 0
  · rw [if_pos zero, zero]
    rfl
  · rw [if_neg zero]
    cases found : shortestFrom k (scaled k) scale (leadingExponent (scaled k) scale) 17 1 with
    | none =>
        obtain ⟨bits, counted⟩ : ∃ bits, bits = 1074 := ⟨_, rfl⟩
        simp only [found]
        rw [← counted]
        exact nearestMagnitude_expansion finite (scale_eq counted) (by rw [counted]; rfl)
    | some best =>
        obtain ⟨digits, exponent⟩ := best
        have back := readsBack_iff.mp (readsBack_of_shortestFrom found)
        simp only [found]
        split
        · have ten : digits = 1 * 10 ^ 1 := ‹digits = 10›
          rw [ten, (sameValue_shift false false 1 1 exponent).nearestMagnitude_eq] at back
          exact back
        · exact back

end Shortest

end Decimal

end Flowline
