import Flowline.InputResolution
import Flowline.Json.Interpretation

/-!
Which inputs a node is given. Where every data edge carries a value, the ports that have one are
those that the data edges enter.
-/

namespace Flowline

theorem Json.Object.hasValue_insert (values : Json.Object) (key : String) (value : Json)
    (other : String) :
    hasValue (Entries.insert values key value) other =
      if key = other then !value.isNull else hasValue values other := by
  unfold hasValue value?
  rw [Entries.get?_insert]
  split
  · cases null : value.isNull <;> simp [Option.filter, null]
  · rfl

namespace InputResolution

theorem hasValue_add (gathered : Gathered) (port : PortId) {value : Json}
    (given : value.isNull = false) (other : PortId) :
    Json.Object.hasValue (gathered.add port value).values other =
      if port = other then true else Json.Object.hasValue gathered.values other := by
  unfold Gathered.add
  split
  · rw [Json.Object.hasValue_insert, given]
    rfl
  · split <;> exact Json.Object.hasValue_insert _ _ _ _

variable {context : Context} {branchSkipped : List NodeId}

theorem gather_supplied (mappings : List InputMapping) (gathered : Gathered)
    (supplied : ∀ mapping ∈ mappings, ∃ output, context.output? mapping.source = some output ∧
      (carried mapping output).isNull = false) :
    ∃ inputs, gather context branchSkipped gathered mappings = .ready inputs ∧
      ∀ port, Json.Object.hasValue inputs port = true ↔
        Json.Object.hasValue gathered.values port = true ∨
          port ∈ mappings.map InputMapping.targetInput := by
  induction mappings generalizing gathered with
  | nil => exact ⟨_, rfl, by simp⟩
  | cons mapping rest ih =>
      obtain ⟨output, recorded, given⟩ := supplied mapping List.mem_cons_self
      obtain ⟨inputs, ready, present⟩ :=
        ih (gathered.add mapping.targetInput (carried mapping output)) fun other member =>
          supplied other (List.mem_cons_of_mem _ member)
      refine ⟨inputs, ?_, fun port => ?_⟩
      · simp only [gather, recorded, ready]
      · rw [present, hasValue_add gathered _ given, List.map_cons, List.mem_cons]
        split
        · rename_i here
          simp [here]
        · rename_i apart
          rw [or_iff_right (Ne.symm apart)]

end InputResolution

theorem resolveInputs_of_fed {mappings : List InputMapping} {context : Context}
    {skipped : List NodeId} (fed : mappings.filter InputMapping.isData ≠ []) :
    resolveInputs mappings context skipped =
      InputResolution.gather context skipped {} (mappings.filter InputMapping.isData) := by
  unfold resolveInputs
  cases data : mappings.filter InputMapping.isData with
  | nil => exact absurd data fed
  | cons mapping rest => rfl

theorem resolveInputs_of_unfed {mappings : List InputMapping} {context : Context}
    {skipped : List NodeId} (unfed : mappings.filter InputMapping.isData = []) :
    resolveInputs mappings context skipped = .ready context.initialData := by
  rw [resolveInputs, unfed]

theorem resolveInputs_supplied {mappings : List InputMapping} {context : Context}
    {branchSkipped : List NodeId} (fed : mappings.filter InputMapping.isData ≠ [])
    (supplied : ∀ mapping ∈ mappings, mapping.isData = true →
      ∃ output, context.output? mapping.source = some output ∧
        (InputResolution.carried mapping output).isNull = false) :
    ∃ inputs, resolveInputs mappings context branchSkipped = .ready inputs ∧
      ∀ port, Json.Object.hasValue inputs port = true ↔
        port ∈ (mappings.filter InputMapping.isData).map InputMapping.targetInput := by
  obtain ⟨inputs, ready, present⟩ :=
    InputResolution.gather_supplied (mappings.filter InputMapping.isData) {}
      fun mapping member => supplied mapping (List.mem_filter.mp member).1
        (List.mem_filter.mp member).2
  exact ⟨inputs, (resolveInputs_of_fed fed).trans ready,
    fun port => (present port).trans (or_iff_right Bool.false_ne_true)⟩

end Flowline
