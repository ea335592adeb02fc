import Flowline.Text.Case

/-!
Lower-casing settles in one pass: each character of a lower-cased text is its own lower case, and it
is no capital sigma, the one letter whose lower case hangs on its neighbours.
-/

namespace Flowline.Text

/-- Left alone by lower-casing wherever it stands. -/
def isSettled (c : Char) : Bool := c != 'Σ' && lowercaseChar c == [c]

/-- The counterparts of the characters in a run. -/
def runTargets (run : Nat × Nat × Nat × Int) : List Char :=
  let (first, last, stride, shift) := run
  (List.range ((last - first) / stride + 1)).map fun step =>
    Char.ofNat (((first + stride * step : Nat) : Int) + shift).toNat

theorem ofNat_shiftedCode_mem {runs : Array (Nat × Nat × Nat × Int)} {code low high target : Nat}
    (shifted : shiftedCode runs code low high = some target) :
    ∃ run ∈ runs.toList, Char.ofNat target ∈ runTargets run := by
  fun_induction shiftedCode runs code low high with
  | case1 low high _ middle none => cases shifted
  | case2 low high _ middle first last stride shift found below ih => exact ih shifted
  | case3 low high _ middle first last stride shift found _ above ih => exact ih shifted
  | case4 low high _ middle first last stride shift found reached within fits =>
      have exact_step : first + stride * ((code - first) / stride) = code := by
        have := Nat.mul_div_cancel' (Nat.dvd_of_mod_eq_zero fits)
        omega
      refine ⟨_, Array.mem_toList_iff.mpr (Array.mem_of_getElem? found),
        List.mem_map.mpr ⟨(code - first) / stride, ?_, ?_⟩⟩
      · have := Nat.div_le_div_right (c := stride) (show code - first ≤ last - first by omega)
        exact List.mem_range.mpr (by omega)
      · cases shifted
        rw [exact_step]
  | case5 => cases shifted
  | case6 => cases shifted

/-- The tables map to no character that they map on. -/
theorem isSettled_runTargets :
    (lowercaseRuns.toList.all fun run => (runTargets run).all isSettled) = true := by
  decide +kernel

theorem isSettled_expansions :
    (lowercaseExpansions.toList.all fun expansion =>
      (expansion.2.map Char.ofNat).all isSettled) = true := by
  decide +kernel

theorem isSettled_of_mem_lowercaseChar {c d : Char} (other : c ≠ 'Σ')
    (lowered : d ∈ lowercaseChar c) : isSettled d = true := by
  cases expanded : lowercaseExpansions.find? fun expansion => expansion.1 == c.toNat with
  | some expansion =>
      have listed := Array.mem_toList_iff.mpr (Array.mem_of_find?_eq_some expanded)
      simp only [lowercaseChar, mapCase, expanded] at lowered
      exact List.all_eq_true.mp (List.all_eq_true.mp isSettled_expansions _ listed) d lowered
  | none =>
      cases shifted : shiftedCode lowercaseRuns c.toNat 0 lowercaseRuns.size with
      | some target =>
          obtain ⟨run, listed, reached⟩ := ofNat_shiftedCode_mem shifted
          simp only [lowercaseChar, mapCase, expanded, shifted, List.mem_singleton] at lowered
          subst lowered
          exact List.all_eq_true.mp (List.all_eq_true.mp isSettled_runTargets _ listed) _ reached
      | none =>
          have own : lowercaseChar c = [c] := by
            simp only [lowercaseChar, mapCase, expanded, shifted]
          rw [own, List.mem_singleton] at lowered
          subst lowered
          simp [isSettled, other, own]

theorem isSettled_of_mem_lowercaseFrom {d : Char} {before chars : List Char}
    (lowered : d ∈ lowercaseFrom before chars) : isSettled d = true := by
  induction chars generalizing before with
  | nil => cases lowered
  | cons c rest ih =>
      rw [lowercaseFrom, List.mem_append] at lowered
      rcases lowered with here | later
      · split at here
        · have sigmas : isSettled 'ς' = true ∧ isSettled 'σ' = true := by decide +kernel
          rw [List.mem_singleton] at here
          subst here
          split
          · exact sigmas.1
          · exact sigmas.2
        · exact isSettled_of_mem_lowercaseChar ‹_› here
      · exact ih later

theorem isSettled_of_mem_lowercaseList {d : Char} {chars : List Char}
    (lowered : d ∈ lowercaseList chars) : isSettled d = true :=
  isSettled_of_mem_lowercaseFrom lowered

theorem lowercaseFrom_of_settled {before chars : List Char}
    (settled : ∀ c ∈ chars, isSettled c = true) : lowercaseFrom before chars = chars := by
  induction chars generalizing before with
  | nil => rfl
  | cons c rest ih =>
      rw [List.forall_mem_cons] at settled
      obtain ⟨other, own⟩ : c ≠ 'Σ' ∧ lowercaseChar c = [c] := by
        simpa [isSettled] using settled.1
      rw [lowercaseFrom, if_neg other, own, ih settled.2, List.singleton_append]

theorem lowercaseList_of_settled {chars : List Char} (settled : ∀ c ∈ chars, isSettled c = true) :
    lowercaseList chars = chars :=
  lowercaseFrom_of_settled settled

end Flowline.Text
