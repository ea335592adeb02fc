import Flowline.Proofs.Entries
import Flowline.Signal

/-!
Signals against the data field that mirrors them. A signal that is read back from the field may be
another one, since to select no branch and to select a branch without a name are written alike; it
still activates the same branches, as far as these have a name.
-/

namespace Flowline

namespace Signal

@[simp] theorem names_ofNames (names : List String) : (ofNames names).names = names := by
  cases names <;> rfl

/-- The signal that is read where the given one was written. -/
def canonical (signal : Signal) : Signal :=
  ofNames (if signal.names = [""] then [] else signal.names)

theorem canonical_canonical (signal : Signal) : signal.canonical.canonical = signal.canonical := by
  unfold canonical
  rw [names_ofNames]
  split
  · rfl
  · rfl

theorem activates_canonical (signal : Signal) {branch : String} (named : branch ≠ "") :
    signal.canonical.activates branch = signal.activates branch := by
  unfold activates canonical
  rw [names_ofNames]
  split
  · rename_i unnamed
    rw [unnamed]
    simp [named]
  · rfl

theorem filterMap_string? (names : List String) :
    (names.map Json.string).filterMap Json.string? = names := by
  rw [List.filterMap_map]
  exact List.filterMap_some

theorem ofActiveBranches?_toActiveBranches (signal : Signal) :
    ofActiveBranches? signal.toActiveBranches = some signal.canonical := by
  unfold toActiveBranches canonical
  split
  · rename_i none
    rw [none]
    rfl
  · rename_i name single
    rw [single]
    by_cases unnamed : name = ""
    · rw [unnamed]
      rfl
    · simp [ofActiveBranches?, String.isEmpty_iff, unnamed]
  · rename_i nonempty several
    have plural : signal.names ≠ [""] := several ""
    rw [if_neg plural]
    exact congrArg (fun names => some (ofNames names)) (filterMap_string? signal.names)

end Signal

namespace Output

def canonical (output : Output) : Output :=
  { output with signal := output.signal.map Signal.canonical }

def withoutSignal (output : Output) : Output := { output with signal := none }

/-- The data field that names branches is the one that was set with the signal. -/
structure Mirrors (output : Output) (signal : Signal) : Prop where
  given : output.signal = some signal
  field : output.get? activeBranchesField = some signal.toActiveBranches

theorem canonical_canonical (output : Output) :
    output.canonical.canonical = output.canonical := by
  cases output with
  | mk data signal => cases signal <;> simp [canonical, Signal.canonical_canonical]

theorem mirrors_withSignal (output : Output) (signal : Signal) :
    (output.withSignal signal).Mirrors signal where
  given := rfl
  field := by
    change Entries.get? (Entries.insert _ _ _) _ = _
    rw [Entries.get?_insert, if_pos rfl]

theorem get?_withSignal (output : Output) (signal : Signal) {key : String}
    (apart : activeBranchesField ≠ key) :
    (output.withSignal signal).get? key = output.get? key := by
  change Entries.get? (Entries.insert _ _ _) _ = _
  rw [Entries.get?_insert, if_neg apart]
  rfl

theorem Mirrors.liftSignal_withoutSignal {output : Output} {signal : Signal}
    (mirrors : output.Mirrors signal) : output.withoutSignal.liftSignal = output.canonical := by
  have lifted : (output.withoutSignal.get? activeBranchesField).bind Signal.ofActiveBranches? =
      some signal.canonical := by
    change (output.get? activeBranchesField).bind Signal.ofActiveBranches? = some signal.canonical
    rw [mirrors.field, Option.bind_some, Signal.ofActiveBranches?_toActiveBranches]
  simp only [liftSignal, canonical, mirrors.given, Option.map_some]
  rw [← lifted]
  rfl

theorem Mirrors.liftSignal {output : Output} {signal : Signal} (mirrors : output.Mirrors signal) :
    output.liftSignal = output := by
  rw [Output.liftSignal, mirrors.given]

end Output

end Flowline
