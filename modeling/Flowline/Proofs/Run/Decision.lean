import Flowline.Run.Walk
import Mathlib.Data.List.Find

/-!
What decides about a node: the outputs of the sources it is fed by, and which of them were skipped
with their branch. Nothing else of a run is looked at.
-/

namespace Flowline

namespace InputMapping

/-- The source has an output, and its signal, if there is one, activates the port left through. -/
def Active (outputs : NodeId → Option Output) (mapping : InputMapping) : Prop :=
  ∃ output, outputs mapping.source = some output ∧
    (output.signal = none ∨
      ∃ signal port, output.signal = some signal ∧ mapping.sourceOutput = some port ∧
        signal.activates port = true)

theorem isActive_iff {mapping : InputMapping} {context : Context} :
    mapping.isActive context = true ↔ mapping.Active context.output? := by
  unfold isActive Active
  cases context.output? mapping.source with
  | none => simp
  | some output =>
      obtain ⟨data, signal⟩ := output
      cases signal <;> simp [Option.any_eq_true]

theorem isActive_congr {mapping : InputMapping} {context other : Context}
    (same : context.output? mapping.source = other.output? mapping.source) :
    mapping.isActive context = mapping.isActive other := by
  unfold isActive
  rw [same]

end InputMapping

/-- Some mapping is a trigger, and none of the triggers is active. -/
def Dormant (mappings : List InputMapping) (outputs : NodeId → Option Output) : Prop :=
  (∃ mapping ∈ mappings, mapping.kind = .trigger) ∧
    ∀ mapping ∈ mappings, mapping.kind = .trigger → ¬ mapping.Active outputs

/-- Some data is to come from a source that has no output and was not skipped with its branch. -/
def Lacking (mappings : List InputMapping) (outputs : NodeId → Option Output)
    (branchSkipped : List NodeId) : Prop :=
  ∃ mapping ∈ mappings, mapping.kind = .data ∧ outputs mapping.source = none ∧
    mapping.source ∉ branchSkipped

section Triggers

variable {mappings : List InputMapping} {context other : Context}

theorem evaluateTriggers_eq_of_isActive
    (same : ∀ mapping ∈ mappings, mapping.isActive context = mapping.isActive other) :
    evaluateTriggers mappings context = evaluateTriggers mappings other := by
  have within : ∀ mapping ∈ mappings.filter InputMapping.isTrigger,
      mapping.isActive context = mapping.isActive other := fun mapping member =>
    same mapping (List.mem_filter.mp member).1
  unfold evaluateTriggers
  cases triggers : mappings.filter InputMapping.isTrigger with
  | nil => rfl
  | cons trigger rest =>
      rw [triggers] at within
      simp only [List.find?_congr within]

theorem evaluateTriggers_congr
    (same : ∀ mapping ∈ mappings,
      context.output? mapping.source = other.output? mapping.source) :
    evaluateTriggers mappings context = evaluateTriggers mappings other :=
  evaluateTriggers_eq_of_isActive fun mapping member =>
    InputMapping.isActive_congr (same mapping member)

theorem evaluateTriggers_eq_inactive_iff :
    (∃ triggers, evaluateTriggers mappings context = .inactive triggers) ↔
      Dormant mappings context.output? := by
  have member (mapping : InputMapping) : mapping ∈ mappings.filter InputMapping.isTrigger ↔
      mapping ∈ mappings ∧ mapping.kind = .trigger := by
    simp [InputMapping.isTrigger]
  have dormant : Dormant mappings context.output? ↔
      (∃ mapping, mapping ∈ mappings.filter InputMapping.isTrigger) ∧
        ∀ mapping ∈ mappings.filter InputMapping.isTrigger,
          ¬ mapping.isActive context = true := by
    simp only [Dormant, member, InputMapping.isActive_iff, and_imp]
  rw [dormant]
  unfold evaluateTriggers
  cases mappings.filter InputMapping.isTrigger with
  | nil => simp
  | cons trigger rest =>
      cases found : (trigger :: rest).find? fun mapping => mapping.isActive context with
      | none =>
          simp only [found, TriggerDecision.inactive.injEq, exists_eq', true_iff]
          exact ⟨⟨trigger, List.mem_cons_self⟩, List.find?_eq_none.mp found⟩
      | some mapping =>
          have active := List.find?_some found
          have listed := List.mem_of_find?_eq_some found
          simp only [found, reduceCtorEq, exists_false, false_iff, not_and]
          exact fun _ inactive => inactive mapping listed active

end Triggers

section Inputs

open InputResolution (gather Gathered)

variable {mappings : List InputMapping} {context other : Context}
  {branchSkipped otherSkipped : List NodeId}

theorem gather_congr (mappings : List InputMapping) (gathered : Gathered)
    (sameOutputs : ∀ mapping ∈ mappings,
      context.output? mapping.source = other.output? mapping.source)
    (sameSkips : ∀ mapping ∈ mappings,
      (mapping.source ∈ branchSkipped ↔ mapping.source ∈ otherSkipped)) :
    gather context branchSkipped gathered mappings =
      gather other otherSkipped gathered mappings := by
  induction mappings generalizing gathered with
  | nil => rfl
  | cons mapping rest ih =>
      have continued (gathered : Gathered) := ih gathered
        (fun each member => sameOutputs each (List.mem_cons_of_mem _ member))
        (fun each member => sameSkips each (List.mem_cons_of_mem _ member))
      have skips :
          branchSkipped.contains mapping.source = otherSkipped.contains mapping.source := by
        rw [Bool.eq_iff_iff]
        simpa using sameSkips mapping List.mem_cons_self
      simp only [gather, sameOutputs mapping List.mem_cons_self, skips, continued]

theorem resolveInputs_congr (sameData : context.initialData = other.initialData)
    (sameOutputs : ∀ mapping ∈ mappings,
      context.output? mapping.source = other.output? mapping.source)
    (sameSkips : ∀ mapping ∈ mappings,
      (mapping.source ∈ branchSkipped ↔ mapping.source ∈ otherSkipped)) :
    resolveInputs mappings context branchSkipped = resolveInputs mappings other otherSkipped := by
  have gathered := gather_congr (mappings.filter InputMapping.isData) {}
    (fun mapping member => sameOutputs mapping (List.mem_filter.mp member).1)
    (fun mapping member => sameSkips mapping (List.mem_filter.mp member).1)
  unfold resolveInputs
  cases data : mappings.filter InputMapping.isData with
  | nil => simp only [sameData]
  | cons mapping rest =>
      rw [data] at gathered
      exact gathered

theorem gather_eq_missing_iff (gathered : Gathered) :
    (∃ source edge, gather context branchSkipped gathered mappings = .missing source edge) ↔
      ∃ mapping ∈ mappings, context.output? mapping.source = none ∧
        mapping.source ∉ branchSkipped := by
  induction mappings generalizing gathered with
  | nil => simp [gather]
  | cons mapping rest ih =>
      simp only [List.mem_cons, exists_eq_or_imp]
      cases found : context.output? mapping.source with
      | some output => simp [gather, found, ih]
      | none =>
          by_cases skipped : mapping.source ∈ branchSkipped
          · simp [gather, found, skipped, ih]
          · simp [gather, found, skipped]

theorem resolveInputs_eq_missing_iff :
    (∃ source edge, resolveInputs mappings context branchSkipped = .missing source edge) ↔
      Lacking mappings context.output? branchSkipped := by
  have lacking : Lacking mappings context.output? branchSkipped ↔
      ∃ mapping ∈ mappings.filter InputMapping.isData,
        context.output? mapping.source = none ∧ mapping.source ∉ branchSkipped := by
    simp [Lacking, InputMapping.isData, and_assoc]
  rw [lacking]
  unfold resolveInputs
  cases mappings.filter InputMapping.isData with
  | nil => simp
  | cons mapping rest => exact gather_eq_missing_iff {}

end Inputs

section Decisions

variable {mappings : List InputMapping} {context other : Context}
  {branchSkipped otherSkipped : List NodeId}

theorem decideNode_congr (sameData : context.initialData = other.initialData)
    (sameOutputs : ∀ mapping ∈ mappings,
      context.output? mapping.source = other.output? mapping.source)
    (sameSkips : ∀ mapping ∈ mappings,
      (mapping.source ∈ branchSkipped ↔ mapping.source ∈ otherSkipped)) :
    decideNode mappings context branchSkipped = decideNode mappings other otherSkipped := by
  unfold decideNode
  rw [evaluateTriggers_congr sameOutputs, resolveInputs_congr sameData sameOutputs sameSkips]

theorem decideNode_of_not_dormant (awake : ¬ Dormant mappings context.output?) :
    decideNode mappings context branchSkipped =
      match resolveInputs mappings context branchSkipped with
      | .missing source _ => .lack source
      | .ready inputs => .run inputs := by
  unfold decideNode
  cases decided : evaluateTriggers mappings context with
  | inactive triggers =>
      exact absurd (evaluateTriggers_eq_inactive_iff.mp ⟨triggers, decided⟩) awake
  | ungated => rfl
  | active => rfl

theorem decideNode_of_dormant (dormant : Dormant mappings context.output?) :
    ∃ triggers, decideNode mappings context branchSkipped = .skip triggers := by
  obtain ⟨triggers, decided⟩ := evaluateTriggers_eq_inactive_iff.mpr dormant
  exact ⟨triggers, by rw [decideNode, decided]⟩

theorem decideNode_of_lacking (awake : ¬ Dormant mappings context.output?)
    (lacking : Lacking mappings context.output? branchSkipped) :
    ∃ source, decideNode mappings context branchSkipped = .lack source := by
  obtain ⟨source, edge, missing⟩ := resolveInputs_eq_missing_iff.mpr lacking
  exact ⟨source, by rw [decideNode_of_not_dormant awake, missing]⟩

theorem decideNode_of_supplied (awake : ¬ Dormant mappings context.output?)
    (supplied : ¬ Lacking mappings context.output? branchSkipped) :
    ∃ inputs, resolveInputs mappings context branchSkipped = .ready inputs ∧
      decideNode mappings context branchSkipped = .run inputs := by
  cases resolved : resolveInputs mappings context branchSkipped with
  | missing source edge =>
      exact absurd (resolveInputs_eq_missing_iff.mp ⟨source, edge, resolved⟩) supplied
  | ready inputs => exact ⟨inputs, rfl, by rw [decideNode_of_not_dormant awake, resolved]⟩

theorem lacking_of_lack {source : NodeId}
    (decided : decideNode mappings context branchSkipped = .lack source) :
    Lacking mappings context.output? branchSkipped := by
  by_contra supplied
  by_cases dormant : Dormant mappings context.output?
  · obtain ⟨triggers, skips⟩ := decideNode_of_dormant dormant
    cases skips.symm.trans decided
  · obtain ⟨inputs, _, runs⟩ := decideNode_of_supplied dormant supplied
    cases runs.symm.trans decided

end Decisions

end Flowline
