import Flowline.Proofs.Validation.Agreement

/-!
What validation tells of cycles. Edges may dangle, run side by side or lead from a node to itself,
and ids may be declared twice: among the declared nodes, exactly those that lie on a cycle or behind
one are reported, in the order of declaration.
-/

namespace Flowline

def ValidationError.isCycle : ValidationError → Bool
  | .cycle _ => true
  | _ => false

namespace Workflow

variable {σ : Type} {workflow : Workflow} {nodes : List NodeId} {pairs : List (NodeId × NodeId)}

/-- An edge leads from the one to the other, and both are declared. -/
def DeclaredJoin (workflow : Workflow) (source target : NodeId) : Prop :=
  Joined workflow.resolvedEdges source target ∧
    source ∈ workflow.nodeIds ∧ target ∈ workflow.nodeIds

theorem paired_eq_declaredJoin
    (samePairs : pairs.Perm (declaredPairs workflow.nodeIds workflow.resolvedEdges)) :
    Paired pairs = workflow.DeclaredJoin := by
  funext source target
  exact propext (samePairs.mem_iff.trans paired_declaredPairs_iff)

theorem BehindCycle.declared {node : NodeId} (behind : BehindCycle workflow.DeclaredJoin node) :
    node ∈ workflow.nodeIds := by
  obtain ⟨source, joined, _⟩ := behind.predecessor
  exact joined.2.2

theorem cycleErrorsAlong_eq_filter {declared : List NodeId} {stuck : NodeId → Bool}
    (remains : (Elimination.run nodes pairs).remains = stuck) :
    cycleErrorsAlong declared nodes pairs =
      if declared.filter stuck = [] then [] else [.cycle (declared.filter stuck)] := by
  rw [cycleErrorsAlong, remains]
  cases declared.filter stuck <;> rfl

theorem filter_isCycle_nodeErrors (seen : List NodeId) (listed : List Node) :
    (nodeErrors seen listed).filter ValidationError.isCycle = [] := by
  induction listed generalizing seen with
  | nil => rfl
  | cons node rest ih =>
      rw [nodeErrors, List.filter_append, List.filter_append, ih]
      cases seen.contains node.id <;> cases Text.isBlankText node.type <;> rfl

theorem filter_isCycle_edgeErrors (declared : List NodeId) (edges : List ResolvedEdge) :
    (edgeErrors declared edges).filter ValidationError.isCycle = [] := by
  rw [List.filter_eq_nil_iff]
  intro error listed
  obtain ⟨edge, _, listed⟩ := List.mem_flatMap.mp listed
  obtain ⟨node, _, rfl⟩ := List.mem_map.mp listed
  exact Bool.false_ne_true

theorem filter_isCycle_cycleErrors (declared : List NodeId) (edges : List ResolvedEdge) :
    (cycleErrors declared edges).filter ValidationError.isCycle = cycleErrors declared edges := by
  rw [cycleErrors, cycleErrorsAlong]
  split <;> rfl

theorem filter_isCycle_registryErrors (registry : Registry σ) (workflow : Workflow) :
    (registryErrors registry workflow).filter ValidationError.isCycle = [] := by
  rw [List.filter_eq_nil_iff]
  intro error listed
  rcases List.mem_append.mp listed with type | input
  · obtain ⟨node, _, rfl⟩ := List.mem_map.mp type
    exact Bool.false_ne_true
  · obtain ⟨node, _, listed⟩ := List.mem_flatMap.mp input
    simp only [inputErrors] at listed
    split at listed
    · cases listed
    · split at listed
      · cases listed
      · obtain ⟨port, _, rfl⟩ := List.mem_map.mp listed
        exact Bool.false_ne_true

theorem filter_isCycle_validate (workflow : Workflow) (registry : Option (Registry σ)) :
    (workflow.validate registry).filter ValidationError.isCycle =
      cycleErrors workflow.nodeIds workflow.resolvedEdges := by
  have further : ((registry.map (registryErrors · workflow)).getD []).filter
      ValidationError.isCycle = [] := by
    cases registry with
    | none => rfl
    | some registry => exact filter_isCycle_registryErrors registry workflow
  rw [validate, structuralErrors, List.filter_append, List.filter_append, List.filter_append,
    filter_isCycle_nodeErrors, filter_isCycle_edgeErrors, filter_isCycle_cycleErrors, further]
  simp

/-- In whatever order nodes and pairs are looked at, no cycle is reported exactly if the edges
between declared nodes form none; else one report lists, as often and in the order as they are
declared, the nodes that lie on a cycle or behind one. Validation reports no other cycle. -/
theorem cycleErrorsAlong_exact (workflow : Workflow) (registry : Option (Registry σ))
    (sameNodes : nodes.Perm (distinct workflow.nodeIds))
    (samePairs : pairs.Perm (declaredPairs workflow.nodeIds workflow.resolvedEdges)) :
    let report := cycleErrorsAlong workflow.nodeIds nodes pairs
    (report = [] ↔ Acyclic workflow.DeclaredJoin) ∧
      (¬ Acyclic workflow.DeclaredJoin → ∃ stuck : NodeId → Bool,
        (∀ node, stuck node = true ↔ BehindCycle workflow.DeclaredJoin node) ∧
          report = [.cycle (workflow.nodeIds.filter stuck)]) ∧
      (workflow.validate registry).filter ValidationError.isCycle = report := by
  intro report
  have stays (node : NodeId) : (Elimination.run nodes pairs).remains node = true ↔
      BehindCycle workflow.DeclaredJoin node := by
    rw [Elimination.remains_run_iff (listed_of_perm sameNodes samePairs),
      paired_eq_declaredJoin samePairs]
  have told : report = _ := cycleErrorsAlong_eq_filter rfl
  have none_iff : workflow.nodeIds.filter (Elimination.run nodes pairs).remains = [] ↔
      Acyclic workflow.DeclaredJoin := by
    rw [acyclic_iff_not_behindCycle, List.filter_eq_nil_iff]
    simp only [stays]
    exact ⟨fun free node behind => free node (BehindCycle.declared behind) behind,
      fun free node _ => free node⟩
  refine ⟨?_, fun cyclic => ⟨_, stays, ?_⟩, ?_⟩
  · rw [told, ← none_iff]
    split <;> simp_all
  · rw [told, if_neg (mt none_iff.mp cyclic)]
  · rw [filter_isCycle_validate]
    exact (cycleErrorsAlong_of_perm sameNodes samePairs).symm

/-- A circle with an edge drawn twice, a node in front of it, one behind it that is declared twice,
and one that leads to itself; edges from and to a node that is not declared. -/
def knotted : Workflow where
  id := "knotted"
  nodes := [⟨"behind", "t", .null, none⟩, ⟨"left", "t", .null, none⟩, ⟨"front", "t", .null, none⟩,
    ⟨"right", "t", .null, none⟩, ⟨"behind", "t", .null, none⟩, ⟨"self", "t", .null, none⟩]
  connections := [⟨"left", "right"⟩, ⟨"lost", "front"⟩, ⟨"right", "left"⟩, ⟨"left", "right"⟩,
    ⟨"front", "left"⟩, ⟨"right", "behind"⟩, ⟨"behind", "lost"⟩, ⟨"self", "self"⟩]

theorem cycleErrorsAlong_exact_knotted :
    let nodes := (distinct knotted.nodeIds).reverse
    let pairs := (declaredPairs knotted.nodeIds knotted.resolvedEdges).reverse
    nodes.Perm (distinct knotted.nodeIds) ∧
      pairs.Perm (declaredPairs knotted.nodeIds knotted.resolvedEdges) ∧
      cycleErrorsAlong knotted.nodeIds nodes pairs =
        [.cycle ["behind", "left", "right", "behind", "self"]] ∧
      ¬ Acyclic knotted.DeclaredJoin ∧ BehindCycle knotted.DeclaredJoin "behind" ∧
        ¬ BehindCycle knotted.DeclaredJoin "front" := by
  intro nodes pairs
  have sameNodes : nodes.Perm (distinct knotted.nodeIds) := List.reverse_perm _
  have samePairs : pairs.Perm (declaredPairs knotted.nodeIds knotted.resolvedEdges) :=
    List.reverse_perm _
  have value : cycleErrorsAlong knotted.nodeIds nodes pairs =
      [.cycle ["behind", "left", "right", "behind", "self"]] := by
    decide +kernel
  obtain ⟨none_iff, exact, _⟩ :=
    cycleErrorsAlong_exact knotted (none : Option (Registry Unit)) sameNodes samePairs
  have cyclic : ¬ Acyclic knotted.DeclaredJoin := by
    rw [← none_iff, value]
    exact List.cons_ne_nil _ _
  obtain ⟨stuck, behind_iff, report⟩ := exact cyclic
  have listed : knotted.nodeIds.filter stuck = ["behind", "left", "right", "behind", "self"] := by
    rw [report] at value
    injection value with value
    injection value
  refine ⟨sameNodes, samePairs, value, cyclic, ?_, ?_⟩
  · rw [← behind_iff]
    have member : "behind" ∈ knotted.nodeIds.filter stuck := by
      rw [listed]
      decide
    exact (List.mem_filter.mp member).2
  · rw [← behind_iff]
    intro held
    have member : "front" ∈ knotted.nodeIds.filter stuck :=
      List.mem_filter.mpr ⟨by decide, held⟩
    rw [listed] at member
    exact absurd member (by decide)

end Workflow

end Flowline
