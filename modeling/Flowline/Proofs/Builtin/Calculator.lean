import Flowline.Builtin.Calculator
import Flowline.Proofs.Decimal.Arithmetic
import Flowline.Proofs.Entries

/-!
What the calculator answers. It refuses an operation that it does not know, operands that are no
numbers, and a division by zero; any other operation has its result put out, but a result that is no
finite double is put out as `null`.
-/

namespace Flowline

open Binary64 (value overflow)

namespace Operation

variable {operation : Operation} {a b : Float}

def DividesByZero (operation : Operation) (b : Float) : Prop :=
  (operation = .divide ∨ operation = .modulo) ∧ value b = 0

/-- The operands with a result among the finite doubles: what is exact must lie below the overflow.
Nothing can be said of a power but that the result is finite. -/
def HasResult : Operation → Float → Float → Prop
  | .add, a, b => a.isFinite = true ∧ b.isFinite = true ∧ |value a + value b| < overflow
  | .subtract, a, b => a.isFinite = true ∧ b.isFinite = true ∧ |value a - value b| < overflow
  | .multiply, a, b => a.isFinite = true ∧ b.isFinite = true ∧ |value a * value b| < overflow
  | .divide, a, b => value b ≠ 0 ∧ a.isFinite = true ∧
      (b.isFinite = true ∧ |value a / value b| < overflow ∨ b.isInf = true)
  | .modulo, a, b => value b ≠ 0 ∧ a.isFinite = true ∧ (b.isFinite = true ∨ b.isInf = true)
  | .power, a, b => (Float.pow a b).isFinite = true

theorem apply_of_dividesByZero (zero : operation.DividesByZero b) :
    operation.apply a b = .error .divisionByZero := by
  obtain ⟨rfl | rfl, none⟩ := zero <;> exact if_pos (Binary64.value_eq_zero_iff.mp none)

theorem exists_apply_eq_ok (proper : ¬operation.DividesByZero b) :
    ∃ result, operation.apply a b = .ok result ∧
      (result.isFinite = true ↔ operation.HasResult a b) := by
  cases operation with
  | add => exact ⟨_, rfl, Binary64.isFinite_add_iff⟩
  | subtract => exact ⟨_, rfl, Binary64.isFinite_sub_iff⟩
  | multiply => exact ⟨_, rfl, Binary64.isFinite_mul_iff⟩
  | divide =>
      have nonzero : value b ≠ 0 := fun none => proper ⟨.inl rfl, none⟩
      have divisor := mt Binary64.value_eq_zero_iff.mpr nonzero
      refine ⟨_, if_neg divisor, (Binary64.isFinite_div_iff divisor).trans ?_⟩
      exact (and_iff_right nonzero).symm
  | modulo =>
      have nonzero : value b ≠ 0 := fun none => proper ⟨.inr rfl, none⟩
      have divisor := mt Binary64.value_eq_zero_iff.mpr nonzero
      refine ⟨_, if_neg divisor, (Binary64.isFinite_remainder_iff divisor).trans ?_⟩
      exact (and_iff_right nonzero).symm
  | power => exact ⟨_, rfl, Iff.rfl⟩

end Operation

variable {inputs config : Json.Object} {operation : Operation} {a b : Float}

/-- What a calculator is asked for. -/
structure Asked (inputs config : Json.Object) (operation : Operation) (a b : Float) : Prop where
  named : Operation.ofName (Json.Object.stringOr config "operation" "add") = .ok operation
  left : operand inputs config "a" = .ok a
  right : operand inputs config "b" = .ok b

/-- The errors of a calculator, of which the first one is reported. -/
inductive Refused (inputs config : Json.Object) : RunError → Prop where
  | operation {error : CalculationError}
      (unknown : Operation.ofName (Json.Object.stringOr config "operation" "add") = .error error) :
      Refused inputs config error.toRunError
  | left {operation : Operation} {error : RunError}
      (named : Operation.ofName (Json.Object.stringOr config "operation" "add") = .ok operation)
      (unusable : operand inputs config "a" = .error error) : Refused inputs config error
  | right {operation : Operation} {a : Float} {error : RunError}
      (named : Operation.ofName (Json.Object.stringOr config "operation" "add") = .ok operation)
      (left : operand inputs config "a" = .ok a)
      (unusable : operand inputs config "b" = .error error) : Refused inputs config error
  | division {operation : Operation} {a b : Float} (asked : Asked inputs config operation a b)
      (zero : operation.DividesByZero b) :
      Refused inputs config CalculationError.divisionByZero.toRunError

/-- The answers of a calculator. A result that is not finite is no error, but it is not put out. -/
inductive Answers (inputs config : Json.Object) : Except RunError Output → Prop where
  | refused {error : RunError} (refused : Refused inputs config error) :
      Answers inputs config (.error error)
  | number {operation : Operation} {a b result : Float} {output : Output}
      (asked : Asked inputs config operation a b) (defined : operation.HasResult a b)
      (computed : operation.apply a b = .ok result) (finite : result.isFinite = true)
      (shown : output.get? "result" = some (.number (.real result finite))) :
      Answers inputs config (.ok output)
  | null {operation : Operation} {a b : Float} {output : Output}
      (asked : Asked inputs config operation a b) (proper : ¬operation.DividesByZero b)
      (undefined : ¬operation.HasResult a b) (shown : output.get? "result" = some .null) :
      Answers inputs config (.ok output)

theorem calculate_of_asked (asked : Asked inputs config operation a b) :
    calculate inputs config =
      ((operation.apply a b).mapError CalculationError.toRunError).map fun result =>
        Output.ofFields [
          ("result", Json.ofFloat result),
          ("expression", .string (Decimal.Layout.plain.render a ++ " " ++ operation.title ++ " " ++
            Decimal.Layout.plain.render b))] := by
  rw [calculate, asked.named, asked.left, asked.right]
  show Except.bind ((operation.apply a b).mapError CalculationError.toRunError) _ = _
  cases operation.apply a b <;> rfl

theorem get?_result (result : Float) (expression : Json) :
    (Output.ofFields [("result", Json.ofFloat result), ("expression", expression)]).get? "result" =
      some (Json.ofFloat result) := by
  simp [Output.get?, Output.ofFields, Entries.get?_insert, Entries.ofList]

theorem answers_of_asked (asked : Asked inputs config operation a b) :
    Answers inputs config (calculate inputs config) := by
  rw [calculate_of_asked asked]
  by_cases zero : operation.DividesByZero b
  · rw [operation.apply_of_dividesByZero zero]
    exact .refused (.division asked zero)
  · obtain ⟨result, computed, finite_iff⟩ := operation.exists_apply_eq_ok zero
    rw [computed]
    by_cases finite : result.isFinite = true
    · refine .number asked (finite_iff.mp finite) computed finite ?_
      exact (get?_result ..).trans (congrArg some (dif_pos finite))
    · refine .null asked zero (mt finite_iff.mpr finite) ?_
      exact (get?_result ..).trans (congrArg some (dif_neg finite))

/-- Whatever it is given, a calculator that succeeds puts out a number just if the operation has a
result among the finite doubles. -/
theorem calculate_answers (inputs config : Json.Object) :
    Answers inputs config (calculate inputs config) := by
  cases named : Operation.ofName (Json.Object.stringOr config "operation" "add") with
  | error error =>
      rw [calculate, named]
      exact .refused (.operation named)
  | ok operation =>
      cases left : operand inputs config "a" with
      | error error =>
          rw [calculate, named, left]
          exact .refused (.left named left)
      | ok a =>
          cases right : operand inputs config "b" with
          | error error =>
              rw [calculate, named, left, right]
              exact .refused (.right named left right)
          | ok b => exact answers_of_asked ⟨named, left, right⟩

/-- The product of two finite numbers is put out as `null`. -/
theorem product_null :
    (calculate
      [("a", .number (.real (Decimal.toFloat ⟨false, 1, 308⟩) (by decide +kernel))),
        ("b", .number (.integer 10 (by decide)))]
      [("operation", .string "multiply")]).toOption.bind (Output.get? · "result") = some .null := by
  decide +kernel

end Flowline
