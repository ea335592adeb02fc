import Flowline.Proofs.Decimal.Binary64
import Flowline.Proofs.Decimal.Value

/-!
Integers as doubles. An integer is rounded to 53 significant bits, and up to 2 ^ 53 it is not
rounded at all; the doubles of two integers are in the order of the integers, unless they are one.
-/

namespace Flowline.Binary64

/-- A number rounded to 53 significant bits, to the even neighbour from halfway. -/
def toSignificant (n : Nat) : Nat :=
  let unit := 2 ^ (n.log2 - 52)
  if 2 * (n % unit) < unit ∨ 2 * (n % unit) = unit ∧ n / unit % 2 = 0 then n / unit * unit
  else (n / unit + 1) * unit

/-- A function of the absolute value under the sign. -/
def mirrored (f : Nat → Nat) (value : Int) : Int := value.sign * f value.natAbs

/-- An integer rounded to the nearest double. -/
def rounded : Int → Int := mirrored toSignificant

theorem toSignificant_of_le {n : Nat} (small : n ≤ 2 ^ 53) : toSignificant n = n := by
  rcases Nat.lt_or_eq_of_le small with below | rfl
  · have shift : n.log2 - 52 = 0 := Nat.sub_eq_zero_of_le (Nat.le_of_lt_succ (log2_lt_of_lt below))
    simp [toSignificant, shift, Nat.mod_one]
  · decide

theorem rounded_of_le {value : Int} (small : value.natAbs ≤ 2 ^ 53) : rounded value = value := by
  rw [rounded, mirrored, toSignificant_of_le small, Int.sign_mul_natAbs]

example : rounded (-9007199254740993) = -9007199254740992 := by decide

/-- The magnitude nearest to a whole number. -/
def nearestWhole (n : Nat) : Nat := nearest n 1

@[simp] theorem nearestWhole_zero : nearestWhole 0 = 0 := nearest_zero Nat.one_pos

theorem nearestWhole_mono : Monotone nearestWhole := fun _ _ ascending =>
  nearest_mono Nat.one_pos Nat.one_pos (Nat.mul_le_mul_right 1 ascending)

section Scaled

/-- The magnitude of `significand * 2 ^ exponent`, in the unit of the least positive double. -/
theorem scaled_significand {significand : Nat} (least : binade ≤ significand)
    (most : significand ≤ 2 * binade) (exponent : Nat) :
    scaled ((exponent + 1) * binade + (significand - binade)) = significand * 2 ^ exponent := by
  rw [scaled_normal (by omega), Nat.add_sub_cancel' least]

theorem significand_bounds {n : Nat} (wide : 2 ^ 52 ≤ n) :
    binade ≤ n / 2 ^ (n.log2 - 52) ∧ n / 2 ^ (n.log2 - 52) < 2 * binade := by
  have unit := Nat.two_pow_pos (n.log2 - 52)
  have positive : n ≠ 0 := by omega
  have reached : 52 ≤ n.log2 := (Nat.le_log2 positive).mpr wide
  have low : 2 ^ 52 * 2 ^ (n.log2 - 52) ≤ n := by
    rw [← Nat.pow_add, Nat.add_sub_cancel' reached]
    exact Nat.log2_self_le positive
  have high : n < 2 ^ 53 * 2 ^ (n.log2 - 52) := by
    rw [← Nat.pow_add, show 53 + (n.log2 - 52) = n.log2 + 1 by omega]
    exact Nat.lt_log2_self
  exact ⟨(Nat.le_div_iff_mul_le unit).mpr low, (Nat.div_lt_iff_lt_mul unit).mpr high⟩

/-- A whole number of 53 significant bits is a double, and so is the next one of its size. -/
theorem exists_scaled_significand {significand shift : Nat} (least : binade ≤ significand)
    (most : significand < 2 * binade) (short : shift < 12) :
    ∃ k < infinity, k % 2 = significand % 2 ∧
      scaled k = significand * 2 ^ shift * scale ∧
      scaled (k + 1) = (significand + 1) * 2 ^ shift * scale := by
  obtain ⟨bits, counted⟩ : ∃ bits, bits = 1074 := ⟨_, rfl⟩
  obtain ⟨k, place⟩ : ∃ k, k = (shift + bits + 1) * binade + (significand - binade) := ⟨_, rfl⟩
  have whole (n : Nat) : n * 2 ^ (shift + bits) = n * 2 ^ shift * scale := by
    rw [Nat.pow_add, scale_eq counted, Nat.mul_assoc]
  have size : binade = 2 ^ 52 := by decide
  refine ⟨k, ?_, ?_, ?_, ?_⟩
  · rw [place, infinity, size]
    omega
  · rw [place, size]
    omega
  · rw [place, scaled_significand least most.le, whole]
  · rw [← whole, ← scaled_significand (Nat.le_succ_of_le least) most, place,
      Nat.succ_sub least, Nat.add_assoc]

/-- What is left below a significand of 53 bits decides how it is rounded. -/
theorem scaled_nearest_significand {significand shift rest : Nat} (least : binade ≤ significand)
    (most : significand < 2 * binade) (short : shift < 12) (within : rest < 2 ^ shift) :
    scaled (nearestWhole (2 ^ shift * significand + rest)) =
      (if 2 * rest < 2 ^ shift ∨ 2 * rest = 2 ^ shift ∧ significand % 2 = 0 then
        significand * 2 ^ shift
      else (significand + 1) * 2 ^ shift) * scale := by
  obtain ⟨k, finite, parity, own, next⟩ := exists_scaled_significand least most short
  have double : (2 ^ shift * significand + rest) * (2 * scale) =
      (2 * significand * 2 ^ shift + 2 * rest) * scale := by
    rw [Nat.mul_left_comm, ← Nat.mul_assoc, Nat.mul_add, Nat.mul_comm (2 ^ shift), Nat.mul_assoc 2]
  have middle : halfway k * 1 = (2 * significand * 2 ^ shift + 2 ^ shift) * scale := by
    rw [halfway, own, next, Nat.mul_one, ← Nat.add_mul, Nat.succ_mul, ← Nat.add_assoc,
      ← Nat.two_mul, Nat.mul_assoc 2]
  have nearer : (2 ^ shift * significand + rest) * (2 * scale) < halfway k * 1 ↔
      2 * rest < 2 ^ shift := by
    rw [double, middle, Nat.mul_lt_mul_right scale_pos, Nat.add_lt_add_iff_left]
  have midway : halfway k * 1 = (2 ^ shift * significand + rest) * (2 * scale) ↔
      2 * rest = 2 ^ shift := by
    rw [double, middle, Nat.mul_right_cancel_iff scale_pos, Nat.add_left_cancel_iff, eq_comm]
  have above : scaled k * 1 ≤ (2 ^ shift * significand + rest) * scale := by
    rw [own, Nat.mul_one, Nat.mul_comm (2 ^ shift)]
    exact Nat.mul_le_mul_right scale (Nat.le_add_right _ rest)
  have below : (2 ^ shift * significand + rest) * scale < scaled (k + 1) * 1 := by
    rw [next, Nat.mul_one, Nat.mul_comm (2 ^ shift), Nat.succ_mul]
    exact Nat.mul_lt_mul_of_pos_right (Nat.add_lt_add_left within _) scale_pos
  rw [nearestWhole, nearest_between Nat.one_pos finite above below]
  simp only [nearer, midway, parity]
  split
  · exact own
  · exact next

theorem scaled_nearest_of_wide {n : Nat} (wide : 2 ^ 52 ≤ n) (narrow : n < 2 ^ 64) :
    scaled (nearestWhole n) = toSignificant n * scale := by
  obtain ⟨least, most⟩ := significand_bounds wide
  have short : n.log2 < 64 := (Nat.log2_lt (by omega)).mpr narrow
  have rounding := scaled_nearest_significand least most (by omega)
    (Nat.mod_lt n (Nat.two_pow_pos (n.log2 - 52)))
  rwa [Nat.div_add_mod] at rounding

/-- Up to 52 bits the significand is filled up with zeros. -/
theorem scaled_nearest_of_narrow {n : Nat} (narrow : n < 2 ^ 52) :
    scaled (nearestWhole n) = n * scale := by
  rcases Nat.eq_zero_or_pos n with rfl | positive
  · simp [scaled_of_lt binade_pos]
  · have short : n.log2 < 52 := (Nat.log2_lt positive.ne').mpr narrow
    obtain ⟨padding, padded⟩ : ∃ padding, n.log2 + padding = 52 := ⟨_, Nat.add_sub_cancel' short.le⟩
    have least : binade ≤ n * 2 ^ padding := by
      have low := Nat.mul_le_mul_right (2 ^ padding) (Nat.log2_self_le positive.ne')
      rwa [← Nat.pow_add, padded] at low
    have most : n * 2 ^ padding < 2 * binade := by
      have high := Nat.mul_lt_mul_of_pos_right (@Nat.lt_log2_self n) (Nat.two_pow_pos padding)
      rwa [← Nat.pow_add, Nat.add_right_comm, padded] at high
    obtain ⟨bits, counted⟩ : ∃ bits, bits = 1074 := ⟨_, rfl⟩
    obtain ⟨exponent, reached⟩ : ∃ exponent, padding + exponent = bits :=
      ⟨_, Nat.add_sub_cancel' (by omega)⟩
    have own := scaled_significand least most.le exponent
    rw [Nat.mul_assoc, ← Nat.pow_add, reached, ← scale_eq counted] at own
    have finite : (exponent + 1) * binade + (n * 2 ^ padding - binade) < infinity := by
      have size : binade = 2 ^ 52 := by decide
      rw [size] at most
      rw [infinity, size]
      omega
    rw [nearestWhole, nearest_scaled finite Nat.one_pos (by rw [own, Nat.mul_one]), own]

theorem scaled_nearest {n : Nat} (narrow : n < 2 ^ 64) :
    scaled (nearestWhole n) = toSignificant n * scale := by
  rcases Nat.lt_or_ge n (2 ^ 52) with short | wide
  · rw [scaled_nearest_of_narrow short, toSignificant_of_le (by omega)]
  · exact scaled_nearest_of_wide wide narrow

end Scaled

section Mirrored

variable {f g : Nat → Nat}

theorem mirrored_natCast (origin : f 0 = 0) (n : Nat) : mirrored f n = f n := by
  rcases Nat.eq_zero_or_pos n with rfl | positive
  · simp [mirrored, origin]
  · simp [mirrored, Int.sign_natCast_of_ne_zero positive.ne']

@[simp] theorem mirrored_neg (f : Nat → Nat) (value : Int) :
    mirrored f (-value) = -mirrored f value := by
  simp [mirrored]

theorem mirrored_mirrored (origin : f 0 = 0) (origin' : g 0 = 0) (value : Int) :
    mirrored g (mirrored f value) = mirrored (fun n => g (f n)) value := by
  have origin'' : g (f 0) = 0 := by rw [origin, origin']
  obtain ⟨n, rfl | rfl⟩ := value.eq_nat_or_neg
  · rw [mirrored_natCast origin, mirrored_natCast origin', mirrored_natCast origin'']
  · rw [mirrored_neg, mirrored_neg, mirrored_neg, mirrored_natCast origin,
      mirrored_natCast origin', mirrored_natCast origin'']

theorem mirrored_mono (origin : f 0 = 0) (ascending : Monotone f) : Monotone (mirrored f) := by
  intro left right below
  obtain ⟨a, rfl | rfl⟩ := left.eq_nat_or_neg <;> obtain ⟨b, rfl | rfl⟩ := right.eq_nat_or_neg <;>
    simp only [mirrored_neg, mirrored_natCast origin]
  · exact Int.ofNat_le.mpr (ascending (Int.ofNat_le.mp below))
  · obtain ⟨rfl, rfl⟩ : a = 0 ∧ b = 0 := by omega
    simp [origin]
  · omega
  · have := @ascending b a (by omega)
    omega

theorem mirrored_strictMono (origin : f 0 = 0) (ascending : StrictMono f) :
    StrictMono (mirrored f) := by
  intro left right below
  obtain ⟨a, rfl | rfl⟩ := left.eq_nat_or_neg <;> obtain ⟨b, rfl | rfl⟩ := right.eq_nat_or_neg <;>
    simp only [mirrored_neg, mirrored_natCast origin]
  · exact Int.ofNat_lt.mpr (ascending (Int.ofNat_lt.mp below))
  · omega
  · have := ascending.le_apply (x := a)
    have := ascending.le_apply (x := b)
    omega
  · have := @ascending b a (by omega)
    omega

end Mirrored

section OrderKey

variable {value : Int}

theorem nearestWhole_lt_infinity {n : Nat} (narrow : n < 2 ^ 64) : nearestWhole n < infinity :=
  Nat.lt_of_le_of_lt (nearestWhole_mono narrow.le) (by decide +kernel)

theorem toFloat_ofInt (value : Int) :
    (Decimal.ofInt value).toFloat =
      ofMagnitude (decide (value < 0)) (nearestWhole value.natAbs) := by
  have whole : (Decimal.ofInt value).numerator = value.natAbs := Nat.mul_one _
  rw [Decimal.toFloat, Decimal.nearestMagnitude_eq, whole]
  rfl

theorem isFinite_ofInt (narrow : value.natAbs < 2 ^ 64) :
    (Decimal.ofInt value).toFloat.isFinite = true := by
  rw [toFloat_ofInt]
  exact isFinite_ofMagnitude _ (nearestWhole_lt_infinity narrow)

theorem orderKey_ofInt (narrow : value.natAbs < 2 ^ 64) :
    orderKey (Decimal.ofInt value).toFloat = mirrored nearestWhole value := by
  rw [toFloat_ofInt, orderKey_ofMagnitude _ (nearestWhole_lt_infinity narrow).le]
  obtain ⟨n, rfl | rfl⟩ := value.eq_nat_or_neg
  · simp [mirrored_natCast]
  · rcases Nat.eq_zero_or_pos n with rfl | positive
    · simp [mirrored]
    · simp [mirrored_natCast, positive]

theorem mirrored_scaled_orderKey (narrow : value.natAbs < 2 ^ 64) :
    mirrored scaled (orderKey (Decimal.ofInt value).toFloat) = rounded value * scale := by
  rw [orderKey_ofInt narrow, mirrored_mirrored nearestWhole_zero (scaled_of_lt binade_pos),
    mirrored, scaled_nearest narrow, Nat.cast_mul, ← mul_assoc]
  rfl

theorem orderKey_ofInt_mono {left right : Int} (narrow : left.natAbs < 2 ^ 64)
    (narrow' : right.natAbs < 2 ^ 64) (ascending : left ≤ right) :
    orderKey (Decimal.ofInt left).toFloat ≤ orderKey (Decimal.ofInt right).toFloat := by
  rw [orderKey_ofInt narrow, orderKey_ofInt narrow']
  exact mirrored_mono nearestWhole_zero nearestWhole_mono ascending

/-- The doubles of two integers are in the order of the rounded integers. -/
theorem compare_orderKey_ofInt {left right : Int} (narrow : left.natAbs < 2 ^ 64)
    (narrow' : right.natAbs < 2 ^ 64) :
    compare (orderKey (Decimal.ofInt left).toFloat) (orderKey (Decimal.ofInt right).toFloat) =
      compare (rounded left) (rounded right) := by
  have ascending : StrictMono (mirrored scaled) :=
    mirrored_strictMono (scaled_of_lt binade_pos) scaled_strictMono
  have wider : StrictMono fun value : Int => value * scale :=
    strictMono_mul_right_of_pos (Int.natCast_pos.mpr scale_pos)
  rw [← cmp_eq_compare, ← ascending.cmp_map_eq, mirrored_scaled_orderKey narrow,
    mirrored_scaled_orderKey narrow', wider.cmp_map_eq, cmp_eq_compare]

theorem rounded_le_rounded {left right : Int} (narrow : left.natAbs < 2 ^ 64)
    (narrow' : right.natAbs < 2 ^ 64) (ascending : left ≤ right) :
    rounded left ≤ rounded right := by
  rw [← Std.isLE_compare, ← compare_orderKey_ofInt narrow narrow', Std.isLE_compare]
  exact orderKey_ofInt_mono narrow narrow' ascending

/-- Rounding may make two integers one, but never turns them round. -/
theorem compare_rounded {left right : Int} (narrow : left.natAbs < 2 ^ 64)
    (narrow' : right.natAbs < 2 ^ 64) (apart : rounded left ≠ rounded right) :
    compare (rounded left) (rounded right) = compare left right := by
  rcases lt_trichotomy left right with below | rfl | above
  · have ascent := lt_of_le_of_ne (rounded_le_rounded narrow narrow' below.le) apart
    rw [compare_lt_iff_lt.mpr below, compare_lt_iff_lt.mpr ascent]
  · exact absurd rfl apart
  · have descent := lt_of_le_of_ne (rounded_le_rounded narrow' narrow above.le) apart.symm
    rw [compare_gt_iff_gt.mpr above, compare_gt_iff_gt.mpr descent]

end OrderKey

end Flowline.Binary64
