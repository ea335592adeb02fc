import Flowline.Proofs.Plan.Acceptance
import Flowline.Proofs.Validation.Elimination

/-!
Validation against compilation. Compilation stops at the first fault and works on indices,
validation lists all faults and works on ids, yet they accept the same workflows, and what a
workflow is refused for is among the faults that are listed.
-/

namespace Flowline

/-- The entry of the list of faults that tells the same. -/
def CompileError.listed : CompileError → ValidationError
  | .cycle nodes => .cycle nodes
  | .unknownNode edge node => .unknownNode edge node
  | .duplicateNode node => .duplicateNode node
  | .missingType node => .missingType node

namespace Workflow

section Checks

variable {seen declared : List NodeId} {nodes : List Node} {edges : List ResolvedEdge}
  {error : CompileError}

theorem nodeErrors_eq_nil_iff : nodeErrors seen nodes = [] ↔ checkNodes seen nodes = .ok () := by
  induction nodes generalizing seen with
  | nil => exact iff_of_true rfl rfl
  | cons node rest ih =>
      rw [nodeErrors, checkNodes_cons, List.append_eq_nil_iff, List.append_eq_nil_iff, ih]
      cases seen.contains node.id <;> cases Text.isBlankText node.type <;> simp

theorem listed_mem_nodeErrors (refused : checkNodes seen nodes = .error error) :
    error.listed ∈ nodeErrors seen nodes := by
  induction nodes generalizing seen with
  | nil => cases refused
  | cons node rest ih =>
      rw [checkNodes_cons] at refused
      rw [nodeErrors, List.mem_append, List.mem_append]
      split at refused
      · rename_i blank
        cases refused
        rw [if_pos blank]
        exact Or.inl (Or.inr (List.mem_singleton_self _))
      · split at refused
        · rename_i known
          cases refused
          rw [if_pos known]
          exact Or.inl (Or.inl (List.mem_singleton_self _))
        · exact Or.inr (ih refused)

theorem edgeErrors_cons (declared : List NodeId) (edge : ResolvedEdge)
    (rest : List ResolvedEdge) :
    edgeErrors declared (edge :: rest) =
      (edge.endpoints.filter fun node => !declared.contains node).map (.unknownNode edge.id) ++
        edgeErrors declared rest := rfl

theorem edgeErrors_eq_nil_iff : edgeErrors declared edges = [] ↔ Closed declared edges := by
  induction edges with
  | nil => exact iff_of_true rfl (by simp [Closed])
  | cons edge rest ih =>
      rw [edgeErrors_cons, List.append_eq_nil_iff, ih, closed_cons, List.map_eq_nil_iff,
        ← find?_endpoints_eq_none_iff, List.find?_eq_none, List.filter_eq_nil_iff]

theorem listed_mem_edgeErrors (refused : checkEdges declared edges = .error error) :
    error.listed ∈ edgeErrors declared edges := by
  obtain ⟨before, edge, after, node, rfl, _, unknown, rfl⟩ := checkEdges_eq_error_iff.mp refused
  refine List.mem_flatMap.mpr ⟨edge, by simp, List.mem_map.mpr ⟨node, ?_, rfl⟩⟩
  have found := find?_endpoints_eq_some_iff.mpr unknown
  have undeclared := List.find?_some found
  exact List.mem_filter.mpr ⟨List.mem_of_find?_eq_some found, undeclared⟩

end Checks

section Cycles

variable {declared nodes stuck : List NodeId} {pairs : List (NodeId × NodeId)}
  {edges : List ResolvedEdge}

theorem paired_declaredPairs_iff {source target : NodeId} :
    Paired (declaredPairs declared edges) source target ↔
      Joined edges source target ∧ source ∈ declared ∧ target ∈ declared := by
  rw [Paired, declaredPairs, List.mem_filter, mem_dependencyPairs]
  simp [Joined]

theorem listed_of_perm (sameNodes : nodes.Perm (distinct declared))
    (samePairs : pairs.Perm (declaredPairs declared edges)) : Elimination.Listed nodes pairs where
  unique := sameNodes.nodup_iff.mpr (nodup_distinct declared)
  distinct := samePairs.nodup_iff.mpr ((nodup_distinct _).filter _)
  closed := by
    intro source target paired
    obtain ⟨_, within⟩ := paired_declaredPairs_iff.mp (samePairs.mem_iff.mp paired)
    simpa only [sameNodes.mem_iff, mem_distinct] using within

/-- Whatever the order in which nodes and pairs are looked at, the same nodes remain. -/
theorem cycleErrorsAlong_of_perm (sameNodes : nodes.Perm (distinct declared))
    (samePairs : pairs.Perm (declaredPairs declared edges)) :
    cycleErrorsAlong declared nodes pairs = cycleErrors declared edges := by
  have sameRelation : Paired pairs = Paired (declaredPairs declared edges) := by
    funext source target
    exact propext samePairs.mem_iff
  have sameRemains : (Elimination.run nodes pairs).remains =
      (Elimination.run (distinct declared) (declaredPairs declared edges)).remains := by
    funext node
    rw [Bool.eq_iff_iff, Elimination.remains_run_iff (listed_of_perm sameNodes samePairs),
      Elimination.remains_run_iff (listed_of_perm (.refl _) (.refl _)), sameRelation]
  rw [cycleErrors, cycleErrorsAlong, cycleErrorsAlong, sameRemains]

theorem remaining_eq (closed : Closed declared edges) (unique : declared.Nodup)
    (ordered : stuck.Sublist declared)
    (behind : ∀ node, node ∈ stuck ↔ BehindCycle (Joined edges) node) :
    declared.filter
      (Elimination.run (distinct declared) (declaredPairs declared edges)).remains = stuck := by
  have sameRelation : Paired (declaredPairs declared edges) = Joined edges := by
    funext source target
    refine propext (paired_declaredPairs_iff.trans (and_iff_left_of_imp fun joined => ?_))
    exact ⟨closed.source joined, closed.target joined⟩
  refine eq_of_sublist unique List.filter_sublist ordered fun node => ?_
  rw [List.mem_filter, Elimination.remains_run_iff (listed_of_perm (.refl _) (.refl _)),
    sameRelation, behind]
  exact and_iff_right_of_imp fun lies => ordered.subset ((behind node).mpr lies)

theorem cycleErrors_of_order (unique : declared.Nodup) (closed : Closed declared edges)
    {order : List NodeId}
    (found : executionOrder declared (ExecutionOrder.graph declared edges) = .ok order) :
    cycleErrors declared edges = [] := by
  obtain ⟨perm, greedy⟩ := ExecutionOrder.greedy_of_ok unique closed found
  have free (node : NodeId) : ¬ BehindCycle (Joined edges) node := by
    intro behind
    obtain ⟨source, joined, _⟩ := behind.predecessor
    exact greedy.legal.not_behindCycle node (perm.mem_iff.mpr (closed.target joined)) behind
  rw [cycleErrors, cycleErrorsAlong, remaining_eq closed unique (List.nil_sublist _)
    fun node => iff_of_false List.not_mem_nil (free node)]

theorem cycleErrors_of_error (unique : declared.Nodup) (closed : Closed declared edges)
    {error : CompileError}
    (refused : executionOrder declared (ExecutionOrder.graph declared edges) = .error error) :
    cycleErrors declared edges = [error.listed] := by
  obtain ⟨stuck, rfl, some, ordered, behind⟩ :=
    ExecutionOrder.behindCycle_of_error unique closed refused
  rw [cycleErrors, cycleErrorsAlong, remaining_eq closed unique ordered behind]
  cases stuck with
  | nil => exact absurd rfl some
  | cons node rest => rfl

end Cycles

variable {workflow : Workflow} {error : CompileError}

theorem structuralErrors_eq_nil_iff :
    workflow.structuralErrors = [] ↔ ∃ compiled, workflow.compile = .ok compiled := by
  simp only [structuralErrors, List.append_eq_nil_iff, nodeErrors_eq_nil_iff,
    edgeErrors_eq_nil_iff, checkNodes_eq_ok_iff, and_assoc, compile_eq_ok_iff]
  constructor
  · intro ⟨sound, closed, acyclic⟩
    cases outcome : executionOrder workflow.nodeIds
        (ExecutionOrder.graph workflow.nodeIds workflow.resolvedEdges) with
    | ok order => exact ⟨_, sound, closed, order, rfl, rfl⟩
    | error error =>
        have cyclic := cycleErrors_of_error sound.unique closed outcome
        cases cyclic.symm.trans acyclic
  · intro ⟨_, sound, closed, order, found, _⟩
    exact ⟨sound, closed, cycleErrors_of_order sound.unique closed found⟩

theorem listed_mem_structuralErrors (refused : workflow.compile = .error error) :
    error.listed ∈ workflow.structuralErrors := by
  simp only [structuralErrors, List.mem_append]
  rcases compile_eq_error_iff.mp refused with refused | ⟨sound, refused | ⟨closed, refused⟩⟩
  · exact Or.inl (Or.inl (listed_mem_nodeErrors refused))
  · exact Or.inl (Or.inr (listed_mem_edgeErrors refused))
  · have cyclic := cycleErrors_of_error sound.unique closed refused
    exact Or.inr (cyclic ▸ List.mem_singleton_self _)

/-- Without a registry, validation finds no fault exactly if the workflow compiles, and lists what
it is refused for if it does not; with a registry it accepts no more. The order in which it looks at
nodes and pairs for a cycle is of no account. -/
theorem validate_agrees {σ : Type} (workflow : Workflow) :
    (workflow.validate (none : Option (Registry σ)) = [] ↔
        ∃ compiled, workflow.compile = .ok compiled) ∧
      (∀ error, workflow.compile = .error error →
        error.listed ∈ workflow.validate (none : Option (Registry σ))) ∧
      (∀ registry : Registry σ, workflow.validate (some registry) = [] →
        ∃ compiled, workflow.compile = .ok compiled) ∧
      ∀ nodes pairs, nodes.Perm (distinct workflow.nodeIds) →
        pairs.Perm (declaredPairs workflow.nodeIds workflow.resolvedEdges) →
          cycleErrorsAlong workflow.nodeIds nodes pairs =
            cycleErrors workflow.nodeIds workflow.resolvedEdges := by
  have unregistered : workflow.validate (none : Option (Registry σ)) =
      workflow.structuralErrors := List.append_nil _
  rw [unregistered]
  refine ⟨structuralErrors_eq_nil_iff, fun error => listed_mem_structuralErrors, ?_,
    fun nodes pairs => cycleErrorsAlong_of_perm⟩
  intro registry faultless
  exact structuralErrors_eq_nil_iff.mp (List.append_eq_nil_iff.mp faultless).1

/-- Two nodes in a circle, one in front of it and one behind. -/
def circular : Workflow where
  id := "circular"
  nodes := [⟨"behind", "t", .null, none⟩, ⟨"left", "t", .null, none⟩, ⟨"front", "t", .null, none⟩,
    ⟨"right", "t", .null, none⟩]
  connections := [⟨"front", "left"⟩, ⟨"left", "right"⟩, ⟨"right", "left"⟩, ⟨"right", "behind"⟩]

theorem validate_agrees_circular :
    circular.compile = .error (.cycle ["behind", "left", "right"]) ∧
      .cycle ["behind", "left", "right"] ∈ circular.validate (none : Option (Registry Unit)) := by
  have refused : circular.compile = .error (.cycle ["behind", "left", "right"]) := by
    decide +kernel
  exact ⟨refused, (validate_agrees circular).2.1 _ refused⟩

end Workflow

end Flowline
