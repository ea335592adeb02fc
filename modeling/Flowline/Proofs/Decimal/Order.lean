import Flowline.Proofs.Decimal.Arithmetic
import Flowline.Proofs.Decimal.Integers

/-!
The order of doubles. Two of them are ordered just if both are numbers, and finite ones are ordered
as the numbers they are, so as their keys.
-/

namespace Flowline.Binary64

open Float.Model Float.Model.UnpackedFloat

section Unpacked

variable {u v : UnpackedFloat} {p q : ℚ}

section Canonical

variable {mantissa mantissa' : Nat} {exponent exponent' : Int}

/-- The greater exponent decides, since it comes with the highest bit. -/
theorem mul_two_pow_lt (narrow : mantissa < 2 ^ 53) (least : -1074 ≤ exponent)
    (canonical : 2 ^ 52 ≤ mantissa' ∨ exponent' = -1074) (below : exponent < exponent') :
    (mantissa * 2 ^ exponent : ℚ) < mantissa' * 2 ^ exponent' := by
  have wide : 2 ^ 52 ≤ mantissa' := canonical.resolve_right (by omega)
  have power : (2 : ℚ) ^ (exponent + 1) ≤ 2 ^ exponent' := zpow_le_zpow_right₀ one_le_two below
  calc
    (mantissa * 2 ^ exponent : ℚ) < 2 ^ 53 * 2 ^ exponent :=
      mul_lt_mul_of_pos_right (by exact_mod_cast narrow) (by positivity)
    _ = 2 ^ 52 * 2 ^ (exponent + 1) := by
      rw [zpow_add_one₀ two_ne_zero]
      ring
    _ ≤ mantissa' * 2 ^ exponent' :=
      mul_le_mul (by exact_mod_cast wide) power (by positivity) (by positivity)

theorem compare_canonical (narrow : mantissa < 2 ^ 53) (narrow' : mantissa' < 2 ^ 53)
    (least : -1074 ≤ exponent) (least' : -1074 ≤ exponent')
    (canonical : 2 ^ 52 ≤ mantissa ∨ exponent = -1074)
    (canonical' : 2 ^ 52 ≤ mantissa' ∨ exponent' = -1074) :
    (compare exponent exponent').then (compare mantissa mantissa') =
      compare (mantissa * 2 ^ exponent : ℚ) (mantissa' * 2 ^ exponent') := by
  rcases lt_trichotomy exponent exponent' with below | rfl | above
  · rw [compare_lt_iff_lt.mpr below,
      compare_lt_iff_lt.mpr (mul_two_pow_lt narrow least canonical' below)]
    rfl
  · have ascending : StrictMono fun n : Nat => (n * 2 ^ exponent : ℚ) := fun _ _ below =>
      mul_lt_mul_of_pos_right (Nat.cast_lt.mpr below) (by positivity)
    rw [compare_eq_iff_eq.mpr rfl, Ordering.eq_then, ← cmp_eq_compare, ← cmp_eq_compare]
    exact (ascending.cmp_map_eq ..).symm
  · rw [compare_gt_iff_gt.mpr above,
      compare_gt_iff_gt.mpr (mul_two_pow_lt narrow' least' canonical above)]
    rfl

end Canonical

theorem apply_positive (mantissa : Nat) (exponent : Int) :
    ((Sign.positive.apply mantissa : ℤ) : ℚ) * 2 ^ exponent = mantissa * 2 ^ exponent := rfl

theorem apply_negative (mantissa : Nat) (exponent : Int) :
    ((Sign.negative.apply mantissa : ℤ) : ℚ) * 2 ^ exponent = -(mantissa * 2 ^ exponent) := by
  simp [Sign.apply]

theorem mul_two_pow_pos {mantissa : Nat} (positive : 0 < mantissa) (exponent : Int) :
    (0 : ℚ) < mantissa * 2 ^ exponent :=
  mul_pos (Nat.cast_pos.mpr positive) (by positivity)

theorem compare_neg_neg (p q : ℚ) : compare (-p) (-q) = (compare p q).swap := by
  have turned : StrictAnti fun r : ℚ => -r := fun _ _ below => neg_lt_neg below
  rw [← cmp_eq_compare, ← cmp_eq_compare, cmp_swap]
  exact turned.cmp_map_eq p q

/-- Finite doubles are compared as numbers. -/
theorem Unpacks.compare_eq (left : Unpacks u p) (right : Unpacks v q) :
    u.compare v = some (compare p q) := by
  cases left with
  | zero sign =>
      cases right with
      | zero sign' => exact congrArg some (compare_eq_iff_eq.mpr rfl).symm
      | @finite sign' mantissa' exponent' positive' =>
          have weight := mul_two_pow_pos positive' exponent'
          cases sign'
          · rw [apply_negative, compare_gt_iff_gt.mpr (neg_lt_zero.mpr weight)]
            rfl
          · rw [apply_positive, compare_lt_iff_lt.mpr weight]
            rfl
  | @finite sign mantissa exponent positive narrow least most canonical =>
      have weight := mul_two_pow_pos positive exponent
      cases right with
      | zero sign' =>
          cases sign
          · rw [apply_negative, compare_lt_iff_lt.mpr (neg_lt_zero.mpr weight)]
            rfl
          · rw [apply_positive, compare_gt_iff_gt.mpr weight]
            rfl
      | @finite sign' mantissa' exponent' positive' narrow' least' most' canonical' =>
          have weight' := mul_two_pow_pos positive' exponent'
          have sizes := compare_canonical narrow narrow' least least' canonical canonical'
          cases sign <;> cases sign'
          · rw [apply_negative, apply_negative, compare_neg_neg, ← sizes]
            rfl
          · rw [apply_negative, apply_positive,
              compare_lt_iff_lt.mpr ((neg_lt_zero.mpr weight).trans weight')]
            rfl
          · rw [apply_positive, apply_negative,
              compare_gt_iff_gt.mpr ((neg_lt_zero.mpr weight').trans weight)]
            rfl
          · rw [apply_positive, apply_positive, ← sizes]
            rfl

theorem compare_eq_none_iff (u v : UnpackedFloat) :
    u.compare v = none ↔ u.isNaN = true ∨ v.isNaN = true := by
  rcases u with (- | -) | - | - | ⟨- | -⟩ <;> rcases v with (- | -) | - | - | ⟨- | -⟩ <;>
    simp [UnpackedFloat.compare, UnpackedFloat.isNaN]

theorem compare_fields_swap (exponent exponent' : Int) (mantissa mantissa' : Nat) :
    (compare exponent' exponent).then (compare mantissa' mantissa) =
      ((compare exponent exponent').then (compare mantissa mantissa')).swap := by
  rw [Ordering.swap_then, ← Std.OrientedOrd.eq_swap, ← Std.OrientedOrd.eq_swap]

theorem compare_swap (u v : UnpackedFloat) : v.compare u = (u.compare v).map Ordering.swap := by
  rcases u with (- | -) | - | - | ⟨- | -⟩ <;> rcases v with (- | -) | - | - | ⟨- | -⟩ <;> try rfl
  · exact congrArg (some ∘ Ordering.swap) (compare_fields_swap ..)
  · exact congrArg some (compare_fields_swap ..)

end Unpacked

section Doubles

variable {a b : Float}

theorem partialCompare_eq (a b : Float) :
    partialCompare a b = a.toModel.unpack.compare b.toModel.unpack := by
  have asked (a b : Float) :
      decide (a ≤ b) = (a.toModel.unpack.compare b.toModel.unpack).any Ordering.isLE :=
    (Bool.decide_coe _).trans (Bool.decide_coe _)
  rw [partialCompare, asked a b, asked b a, compare_swap a.toModel.unpack b.toModel.unpack]
  rcases a.toModel.unpack.compare b.toModel.unpack with - | - | - | - <;> rfl

/-- There is no order just if one of the two is no number. -/
theorem partialCompare_eq_none_iff :
    partialCompare a b = none ↔ a.isNaN = true ∨ b.isNaN = true := by
  rw [partialCompare_eq]
  exact compare_eq_none_iff ..

theorem value_eq_mirrored (x : Float) : value x = (mirrored scaled (orderKey x) : ℤ) / scale := by
  have origin : scaled 0 = 0 := scaled_of_lt binade_pos
  rw [value, orderKey]
  split
  · rw [mirrored_neg, mirrored_natCast origin]
    push_cast
    ring
  · rw [mirrored_natCast origin, one_mul]
    rfl

/-- The numbers ascend with the keys. -/
theorem compare_value (a b : Float) :
    compare (value a) (value b) = compare (orderKey a) (orderKey b) := by
  have ascending : StrictMono fun key : Int => ((mirrored scaled key : ℤ) / scale : ℚ) :=
    fun _ _ below => div_lt_div_of_pos_right
      (Int.cast_lt.mpr (mirrored_strictMono (scaled_of_lt binade_pos) scaled_strictMono below))
      (Nat.cast_pos.mpr scale_pos)
  rw [value_eq_mirrored, value_eq_mirrored, ← cmp_eq_compare, ← cmp_eq_compare]
  exact ascending.cmp_map_eq ..

/-- Finite doubles are in the order of their keys. -/
theorem partialCompare_of_finite (finite : a.isFinite = true) (finite' : b.isFinite = true) :
    partialCompare a b = some (compare (orderKey a) (orderKey b)) := by
  rw [partialCompare_eq, (unpacks finite).compare_eq (unpacks finite'), compare_value]

end Doubles

end Flowline.Binary64
