import Flowline.Decimal.Basic
import Mathlib

/-!
Rounding to the nearest magnitude. The magnitudes ascend with the numbers they stand for, so the
halfway points that a fraction passes form an initial segment, and counting them finds the only
magnitude that the fraction rounds to. Of a fraction only its value matters, and a greater one is
never rounded to a lesser magnitude.
-/

namespace Flowline.Binary64

theorem binade_pos : 0 < binade := by decide

theorem scale_eq {bits : Nat} (counted : bits = 1074) : scale = 2 ^ bits := by
  rw [scale, ← counted, Nat.one_shiftLeft]

theorem scale_pos : 0 < scale := Nat.shiftLeft_pos_iff.mpr Nat.one_pos

theorem infinity_lt : infinity < 2 ^ 63 := by decide

theorem scaled_of_lt {k : Nat} (low : k < binade) : scaled k = k := if_pos low

/-- From the first binade on, the number is told by the binade and the place in it; the place after
the last one is the first of the next binade. -/
theorem scaled_normal {place : Nat} (within : place ≤ binade) (exponent : Nat) :
    scaled ((exponent + 1) * binade + place) = (binade + place) * 2 ^ exponent := by
  have above : ¬(exponent + 1) * binade + place < binade := by
    have : binade ≤ (exponent + 1) * binade := Nat.le_mul_of_pos_left binade exponent.succ_pos
    omega
  rw [scaled, if_neg above, Nat.shiftLeft_eq]
  rcases Nat.lt_or_eq_of_le within with inside | rfl
  · rw [Nat.mul_comm (exponent + 1), Nat.mul_add_mod, Nat.mod_eq_of_lt inside,
      Nat.mul_add_div binade_pos, Nat.div_eq_of_lt inside, Nat.add_zero, Nat.add_sub_cancel]
  · rw [← Nat.succ_mul, Nat.mul_mod_left, Nat.mul_div_cancel _ binade_pos, Nat.add_zero,
      Nat.succ_sub_one, Nat.pow_succ, ← Nat.two_mul, Nat.mul_comm 2, Nat.mul_assoc,
      Nat.mul_comm 2]

/-- Every magnitude is below the first binade or has a binade and a place in it. -/
theorem exists_binade {k : Nat} (high : binade ≤ k) :
    ∃ exponent place, place < binade ∧ k = (exponent + 1) * binade + place := by
  have reached : 0 < k / binade := Nat.div_pos high binade_pos
  refine ⟨k / binade - 1, k % binade, Nat.mod_lt k binade_pos, ?_⟩
  rw [Nat.sub_add_cancel reached, Nat.mul_comm, Nat.div_add_mod]

theorem scaled_lt_succ (k : Nat) : scaled k < scaled (k + 1) := by
  by_cases high : binade ≤ k
  · obtain ⟨exponent, place, within, rfl⟩ := exists_binade high
    rw [Nat.add_assoc, scaled_normal within.le, scaled_normal (Nat.succ_le_of_lt within)]
    exact Nat.mul_lt_mul_of_pos_right (by omega) (Nat.two_pow_pos exponent)
  · rw [scaled_of_lt (by omega)]
    by_cases last : k + 1 = binade
    · have first := scaled_normal (Nat.zero_le binade) 0
      rw [Nat.zero_add, Nat.one_mul, Nat.add_zero, Nat.pow_zero, Nat.mul_one] at first
      rw [last, first]
      omega
    · rw [scaled_of_lt (by omega)]
      exact Nat.lt_succ_self k

theorem scaled_strictMono : StrictMono scaled := strictMono_nat_of_lt_succ scaled_lt_succ

/-- Twice the number halfway from a magnitude to the next one. -/
def halfway (k : Nat) : Nat := scaled k + scaled (k + 1)

theorem halfway_strictMono : StrictMono halfway := fun _ _ below =>
  Nat.add_lt_add (scaled_strictMono below) (scaled_strictMono (Nat.succ_lt_succ below))

theorem two_scaled_lt_halfway (k : Nat) : 2 * scaled k < halfway k := by
  have := scaled_lt_succ k
  rw [halfway]
  omega

theorem halfway_lt_two_scaled (k : Nat) : halfway k < 2 * scaled (k + 1) := by
  have := scaled_lt_succ k
  rw [halfway]
  omega

theorem passes_iff {num den k : Nat} :
    passes num den k = true ↔ k < infinity ∧
      (halfway k * den < num * (2 * scale) ∨
        halfway k * den = num * (2 * scale) ∧ k % 2 = 1) := by
  simp [passes, halfway]

section Counting

/-- Counting by bisection finds the length of an initial segment. -/
theorem countPassing_eq {pass : Nat → Bool} {count : Nat}
    (segment : ∀ k, pass k = true ↔ k < count) {bits base : Nat} (above : base ≤ count)
    (below : count < base + 2 ^ bits) : countPassing pass bits base = count := by
  induction bits generalizing base with
  | zero =>
      rw [Nat.pow_zero] at below
      exact Nat.le_antisymm above (Nat.lt_succ_iff.mp below)
  | succ bits ih =>
      have half := Nat.two_pow_pos bits
      rw [countPassing, Nat.one_shiftLeft]
      rw [Nat.pow_succ] at below
      split
      · have passed := (segment _).mp ‹_›
        exact ih (by omega) (by omega)
      · have stopped := mt (segment _).mpr ‹_›
        exact ih above (by omega)

end Counting

section Fractions

variable {num den : Nat}

theorem passes_of_passes_succ (fraction : 0 < den) {k : Nat}
    (passed : passes num den (k + 1) = true) : passes num den k = true := by
  rw [passes_iff] at passed ⊢
  have ascent := Nat.mul_lt_mul_of_pos_right (halfway_strictMono (Nat.lt_succ_self k)) fraction
  refine ⟨Nat.lt_of_succ_lt passed.1, .inl ?_⟩
  rcases passed.2 with below | ⟨same, _⟩
  · exact Nat.lt_trans ascent below
  · exact same ▸ ascent

theorem exists_segment (fraction : 0 < den) :
    ∃ count, count ≤ infinity ∧ ∀ k, passes num den k = true ↔ k < count := by
  have bounded : ∃ k, ¬passes num den k = true :=
    ⟨infinity, fun passed => absurd (passes_iff.mp passed).1 (Nat.lt_irrefl _)⟩
  refine ⟨Nat.find bounded, Nat.find_le fun passed => ?_,
    fun k => ⟨fun passed => ?_, fun below => ?_⟩⟩
  · exact absurd (passes_iff.mp passed).1 (Nat.lt_irrefl _)
  · -- all that lies below a magnitude which passes does so as well
    by_contra beyond
    have stopped := Nat.find_spec bounded
    refine stopped (Nat.decreasingInduction' (fun j _ _ passed => ?_) (not_lt.mp beyond) passed)
    exact passes_of_passes_succ fraction passed
  · exact not_not.mp (Nat.find_min bounded below)

theorem passes_iff_lt_nearest (fraction : 0 < den) (k : Nat) :
    passes num den k = true ↔ k < nearest num den := by
  obtain ⟨count, bounded, segment⟩ := @exists_segment num den fraction
  have found : nearest num den = count :=
    countPassing_eq segment (Nat.zero_le count) (by have := infinity_lt; omega)
  rw [found]
  exact segment k

theorem nearest_le_infinity (fraction : 0 < den) : nearest num den ≤ infinity := by
  by_contra beyond
  have passed := (passes_iff_lt_nearest fraction infinity).mpr (not_le.mp beyond)
  exact absurd (passes_iff.mp passed).1 (Nat.lt_irrefl _)

theorem nearest_eq_iff (fraction : 0 < den) {k : Nat} :
    nearest num den = k ↔ roundsTo num den k = true := by
  have stops := @passes_iff_lt_nearest num den fraction k
  have starts := @passes_iff_lt_nearest num den fraction (k - 1)
  rw [← not_iff_not, Bool.not_eq_true] at stops
  simp only [roundsTo, Bool.and_eq_true, Bool.not_eq_true', Bool.or_eq_true, beq_iff_eq]
  rw [stops, starts]
  omega

theorem passes_mono {num' den' : Nat} (fraction : 0 < den) (fraction' : 0 < den')
    (ascending : num * den' ≤ num' * den) {k : Nat} (passed : passes num den k = true) :
    passes num' den' k = true := by
  rw [passes_iff] at passed ⊢
  refine ⟨passed.1, ?_⟩
  have wider : num * (2 * scale) * den' ≤ num' * (2 * scale) * den := by
    calc
      num * (2 * scale) * den' = num * den' * (2 * scale) := Nat.mul_right_comm ..
      _ ≤ num' * den * (2 * scale) := Nat.mul_le_mul_right _ ascending
      _ = num' * (2 * scale) * den := Nat.mul_right_comm ..
  have exchange : halfway k * den * den' = halfway k * den' * den := Nat.mul_right_comm ..
  rcases passed.2 with below | ⟨same, odd⟩
  · refine .inl (Nat.lt_of_mul_lt_mul_right (a := den) ?_)
    have := Nat.mul_lt_mul_of_pos_right below fraction'
    omega
  · have reached : halfway k * den' ≤ num' * (2 * scale) := by
      refine Nat.le_of_mul_le_mul_right ?_ fraction
      rw [← exchange, same]
      exact wider
    rcases Nat.lt_or_eq_of_le reached with less | equal
    · exact .inl less
    · exact .inr ⟨equal, odd⟩

theorem nearest_mono {num' den' : Nat} (fraction : 0 < den) (fraction' : 0 < den')
    (ascending : num * den' ≤ num' * den) : nearest num den ≤ nearest num' den' := by
  by_contra descending
  have passed := (passes_iff_lt_nearest fraction _).mpr (not_le.mp descending)
  have stopped := (passes_iff_lt_nearest fraction' _).mp
    (passes_mono fraction fraction' ascending passed)
  exact Nat.lt_irrefl _ stopped

/-- Equal fractions round alike. -/
theorem nearest_congr {num' den' : Nat} (fraction : 0 < den) (fraction' : 0 < den')
    (same : num * den' = num' * den) : nearest num den = nearest num' den' :=
  Nat.le_antisymm (nearest_mono fraction fraction' same.le)
    (nearest_mono fraction' fraction same.ge)

/-- From one magnitude up to the next, a fraction rounds to the nearer of the two, and to the even
one from halfway. -/
theorem nearest_between (fraction : 0 < den) {k : Nat} (finite : k < infinity)
    (above : scaled k * den ≤ num * scale) (below : num * scale < scaled (k + 1) * den) :
    nearest num den =
      if num * (2 * scale) < halfway k * den ∨
          halfway k * den = num * (2 * scale) ∧ k % 2 = 0 then k
      else k + 1 := by
  have double : num * (2 * scale) = 2 * (num * scale) := Nat.mul_left_comm ..
  have ending : passes num den (k + 1) = false := by
    rw [← Bool.not_eq_true, passes_iff]
    rintro ⟨_, passed⟩
    have := Nat.mul_lt_mul_of_pos_right (two_scaled_lt_halfway (k + 1)) fraction
    rw [Nat.mul_assoc] at this
    omega
  have stops := @passes_iff_lt_nearest num den fraction (k + 1)
  have turns := @passes_iff_lt_nearest num den fraction k
  rw [ending] at stops
  rw [passes_iff] at turns
  have reached : k ≤ nearest num den := by
    cases k with
    | zero => exact Nat.zero_le _
    | succ j =>
        refine Nat.succ_le_of_lt ((passes_iff_lt_nearest fraction j).mp (passes_iff.mpr ?_))
        refine ⟨Nat.lt_of_succ_lt finite, .inl ?_⟩
        have := Nat.mul_lt_mul_of_pos_right (halfway_lt_two_scaled j) fraction
        rw [Nat.mul_assoc] at this
        omega
  have parity := Nat.mod_two_eq_zero_or_one k
  split <;> simp only [Bool.false_eq_true, false_iff] at stops <;> omega

/-- A magnitude is the nearest one to its own number. -/
theorem nearest_scaled {k : Nat} (finite : k < infinity) (fraction : 0 < den)
    (own : num * scale = scaled k * den) : nearest num den = k := by
  have ascent := Nat.mul_lt_mul_of_pos_right (scaled_lt_succ k) fraction
  have nearer : num * (2 * scale) < halfway k * den := by
    rw [Nat.mul_left_comm, own, ← Nat.mul_assoc]
    exact Nat.mul_lt_mul_of_pos_right (two_scaled_lt_halfway k) fraction
  rw [nearest_between fraction finite own.ge (own ▸ ascent), if_pos (.inl nearer)]

@[simp] theorem nearest_zero (fraction : 0 < den) : nearest 0 den = 0 :=
  nearest_scaled (by decide) fraction (by simp [scaled_of_lt binade_pos])

end Fractions

end Flowline.Binary64
