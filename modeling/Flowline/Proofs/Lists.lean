import Mathlib.Data.List.Basic

/-!
Lists and options whose items are mapped. Items that are numbered by their place may be mapped
before or after it, and an injective map keeps apart what is apart.
-/

namespace Flowline

universe u v w

variable {α : Type u} {β : Type v} {γ : Type w}

theorem map_mapIdx (items : List α) (number : Nat → α → β) (f : β → γ) :
    (items.mapIdx number).map f = items.mapIdx fun index item => f (number index item) := by
  induction items generalizing number with
  | nil => rfl
  | cons first rest ih => rw [List.mapIdx_cons, List.mapIdx_cons, List.map_cons, ih]

theorem mapIdx_map (items : List α) (f : α → β) (number : Nat → β → γ) :
    (items.map f).mapIdx number = items.mapIdx fun index item => number index (f item) := by
  induction items generalizing number with
  | nil => rfl
  | cons first rest ih => rw [List.map_cons, List.mapIdx_cons, List.mapIdx_cons, ih]

theorem mapIdx_unnumbered (items : List α) (f : α → β) :
    (items.mapIdx fun _ item => f item) = items.map f := by
  induction items with
  | nil => rfl
  | cons first rest ih => rw [List.mapIdx_cons, List.map_cons, ih]

theorem mapIdx_numbers (items : List α) (label : Nat → β) :
    (items.mapIdx fun index _ => label index) = (List.range items.length).map label := by
  apply List.ext_getElem
  · simp
  · simp

theorem contains_map [DecidableEq α] [DecidableEq β] {f : α → β} (injective : Function.Injective f)
    (items : List α) (item : α) : (items.map f).contains (f item) = items.contains item := by
  rw [Bool.eq_iff_iff, List.contains_iff_mem, List.contains_iff_mem,
    List.mem_map_of_injective injective]

theorem or_rel {related : α → β → Prop} {first second : Option α}
    {otherFirst otherSecond : Option β} (firsts : Option.Rel related first otherFirst)
    (seconds : Option.Rel related second otherSecond) :
    Option.Rel related (first.or second) (otherFirst.or otherSecond) := by
  cases firsts with
  | none => exact seconds
  | some same => exact .some same

theorem isSome_eq_of_rel {related : α → β → Prop} {value : Option α} {other : Option β}
    (same : Option.Rel related value other) : other.isSome = value.isSome := by
  cases same <;> rfl

end Flowline
