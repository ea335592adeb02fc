/-!
Computations that may fail, taken apart: where the first part of one succeeds, the second one
decides.
-/

namespace Flowline

variable {ε α β : Type} {first : Except ε α} {next : α → Except ε β}

theorem bind_eq_ok_iff {result : β} :
    first.bind next = .ok result ↔ ∃ value, first = .ok value ∧ next value = .ok result := by
  cases first <;> simp [Except.bind]

theorem bind_eq_error_iff {error : ε} :
    first.bind next = .error error ↔
      first = .error error ∨ ∃ value, first = .ok value ∧ next value = .error error := by
  cases first <;> simp [Except.bind]

theorem mapError_eq_ok_iff {δ : Type} {f : ε → δ} {result : α} :
    first.mapError f = .ok result ↔ first = .ok result := by
  cases first <;> constructor <;> rintro ⟨⟩ <;> rfl

/-- The second part succeeds on the same condition whatever the first one gives. -/
theorem exists_bind_eq_ok_iff {condition : Prop}
    (succeeds : ∀ value, (∃ result, next value = .ok result) ↔ condition) :
    (∃ result, first.bind next = .ok result) ↔ (∃ value, first = .ok value) ∧ condition := by
  cases first with
  | error error => simp [Except.bind]
  | ok value => simp [Except.bind, succeeds]

theorem exists_bind_ok_eq_ok_iff {f : α → β} :
    (∃ result, (first.bind fun value => .ok (f value)) = .ok result) ↔
      ∃ value, first = .ok value := by
  cases first <;> simp [Except.bind]

end Flowline
