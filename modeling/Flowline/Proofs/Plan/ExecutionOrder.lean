import Flowline.Plan.Compile
import Flowline.Proofs.Plan.DependencyGraph
import Flowline.Proofs.Plan.Frontier
import Mathlib.Data.Finset.Dedup
import Mathlib.Data.List.GetD

/-!
The order in which declared nodes are placed, in terms of the edges alone: it is greedy with respect
to the place of declaration, and it fails to place exactly the nodes behind a cycle.
-/

namespace Flowline

def Joined (edges : List ResolvedEdge) (source target : NodeId) : Prop :=
  ∃ edge ∈ edges, edge.source = source ∧ edge.target = target

def Closed (declared : List NodeId) (edges : List ResolvedEdge) : Prop :=
  ∀ edge ∈ edges, edge.source ∈ declared ∧ edge.target ∈ declared

theorem Closed.source {declared : List NodeId} {edges : List ResolvedEdge}
    (closed : Closed declared edges) {source target : NodeId}
    (joined : Joined edges source target) : source ∈ declared := by
  obtain ⟨edge, member, rfl, _⟩ := joined
  exact (closed edge member).1

theorem Closed.target {declared : List NodeId} {edges : List ResolvedEdge}
    (closed : Closed declared edges) {source target : NodeId}
    (joined : Joined edges source target) : target ∈ declared := by
  obtain ⟨edge, member, _, rfl⟩ := joined
  exact (closed edge member).2

namespace ExecutionOrder

open Workflow (dependentIndices executionOrder)

variable {declared : List NodeId} {edges : List ResolvedEdge}

theorem getD_idxOf {node : NodeId} (member : node ∈ declared) :
    declared.getD (declared.idxOf node) "" = node := by
  have inside := List.idxOf_lt_length_of_mem member
  rw [List.getD_eq_getElem _ _ inside, List.getElem_idxOf]

theorem idxOf_getD (unique : declared.Nodup) {index : Nat} (inside : index < declared.length) :
    declared.idxOf (declared.getD index "") = index := by
  rw [List.getD_eq_getElem _ _ inside, unique.idxOf_getElem]

theorem getD_mem {index : Nat} (inside : index < declared.length) :
    declared.getD index "" ∈ declared := by
  rw [List.getD_eq_getElem _ _ inside]
  exact List.getElem_mem inside

theorem map_getD_range (declared : List NodeId) :
    (List.range declared.length).map (fun index => declared.getD index "") = declared := by
  refine List.ext_getElem (by simp) fun index left right => ?_
  simp [List.getElem?_eq_getElem right]

variable (declared edges) in
/-- The graph that a workflow with these nodes and edges is compiled to. -/
abbrev graph : DependencyGraph := .ofPairs declared (dependencyPairs edges)

theorem mem_dependentsOf {source target : NodeId} (member : source ∈ declared) :
    target ∈ (graph declared edges).dependentsOf source ↔ Joined edges source target := by
  rw [DependencyGraph.dependentsOf_ofPairs member, DependencyGraph.mem_targetsOf,
    mem_dependencyPairs, Joined]

theorem mem_dependenciesOf {source target : NodeId} (member : target ∈ declared) :
    source ∈ (graph declared edges).dependenciesOf target ↔ Joined edges source target := by
  rw [DependencyGraph.dependenciesOf_ofPairs member, DependencyGraph.mem_sourcesOf,
    mem_dependencyPairs, Joined]

theorem nodup_dependentsOf {source : NodeId} (member : source ∈ declared) :
    ((graph declared edges).dependentsOf source).Nodup := by
  rw [DependencyGraph.dependentsOf_ofPairs member]
  exact DependencyGraph.nodup_targetsOf (nodup_distinct _)

theorem nodup_dependenciesOf {target : NodeId} (member : target ∈ declared) :
    ((graph declared edges).dependenciesOf target).Nodup := by
  rw [DependencyGraph.dependenciesOf_ofPairs member]
  exact DependencyGraph.nodup_sourcesOf (nodup_distinct _)

theorem mem_dependentIndices (unique : declared.Nodup) (closed : Closed declared edges)
    {index later : Nat} (inside : index < declared.length) :
    later ∈ dependentIndices declared (graph declared edges) index ↔
      later < declared.length ∧
        Joined edges (declared.getD index "") (declared.getD later "") := by
  simp only [dependentIndices, List.mem_map, mem_dependentsOf (getD_mem inside)]
  constructor
  · intro ⟨target, joined, position⟩
    have declaredTarget := closed.target joined
    subst position
    exact ⟨List.idxOf_lt_length_of_mem declaredTarget, by
      rw [getD_idxOf declaredTarget]
      exact joined⟩
  · intro ⟨bound, joined⟩
    exact ⟨_, joined, idxOf_getD unique bound⟩

theorem counted (unique : declared.Nodup) (closed : Closed declared edges) :
    Frontier.Counted
      (declared.map fun node => ((graph declared edges).dependenciesOf node).length)
      (dependentIndices declared (graph declared edges)) := by
  refine ⟨?_, ?_, ?_⟩ <;> simp only [List.length_map]
  · intro node inside later member
    exact ((mem_dependentIndices unique closed inside).mp member).1
  · intro node inside
    refine (nodup_dependentsOf (getD_mem inside)).map_on ?_
    intro left leftMember right rightMember same
    have joined := (mem_dependentsOf (getD_mem inside)).mp leftMember
    exact (List.idxOf_inj (closed.target joined)).mp same
  · intro later inside
    have member := getD_mem inside
    have count : ((declared.map fun node =>
        ((graph declared edges).dependenciesOf node).length).getD later 0) =
        ((graph declared edges).dependenciesOf (declared.getD later "")).length := by
      simp [List.getD_eq_getElem?_getD, List.getElem?_eq_getElem inside]
    have nodup : (((graph declared edges).dependenciesOf (declared.getD later "")).map
        declared.idxOf).Nodup := by
      refine (nodup_dependenciesOf member).map_on ?_
      intro left leftMember right rightMember same
      have joined := (mem_dependenciesOf member).mp leftMember
      exact (List.idxOf_inj (closed.source joined)).mp same
    rw [count, ← List.length_map declared.idxOf, ← List.toFinset_card_of_nodup nodup]
    congr 1
    ext node
    simp only [List.mem_toFinset, List.mem_map, mem_dependenciesOf member, Frontier.holders,
      Finset.mem_filter, Finset.mem_range, List.not_mem_nil, not_false_eq_true, and_true]
    constructor
    · rintro ⟨source, joined, position⟩
      have declaredSource := closed.source joined
      subst position
      have bound := List.idxOf_lt_length_of_mem declaredSource
      refine ⟨bound, (mem_dependentIndices unique closed bound).mpr ⟨inside, ?_⟩⟩
      rw [getD_idxOf declaredSource]
      exact joined
    · rintro ⟨bound, later⟩
      exact ⟨_, ((mem_dependentIndices unique closed bound).mp later).2, idxOf_getD unique bound⟩

theorem available_name_iff (unique : declared.Nodup) (closed : Closed declared edges)
    {before : List Nat} {node : Nat} (within : before ⊆ List.range declared.length)
    (inside : node < declared.length) :
    Available declared (Joined edges) (before.map fun index => declared.getD index "")
        (declared.getD node "") ↔
      Available (List.range declared.length)
        (Frontier.Waits declared.length (dependentIndices declared (graph declared edges)))
        before node := by
  constructor
  · intro ⟨_, fresh, supplied⟩
    refine ⟨List.mem_range.mpr inside, fun member => fresh (List.mem_map_of_mem member), ?_⟩
    intro source ⟨bound, later⟩
    obtain ⟨_, joined⟩ := (mem_dependentIndices unique closed bound).mp later
    obtain ⟨index, member, same⟩ := List.mem_map.mp (supplied _ joined)
    rw [← idxOf_getD unique bound, ← same,
      idxOf_getD unique (List.mem_range.mp (within member))]
    exact member
  · intro ⟨_, fresh, supplied⟩
    refine ⟨getD_mem inside, ?_, ?_⟩
    · intro named
      obtain ⟨index, member, same⟩ := List.mem_map.mp named
      rw [← idxOf_getD unique inside, ← same,
        idxOf_getD unique (List.mem_range.mp (within member))] at fresh
      exact fresh member
    · intro source joined
      have declaredSource := closed.source joined
      have bound := List.idxOf_lt_length_of_mem declaredSource
      have later : node ∈ dependentIndices declared (graph declared edges)
          (declared.idxOf source) := by
        rw [mem_dependentIndices unique closed bound, getD_idxOf declaredSource]
        exact ⟨inside, joined⟩
      exact List.mem_map.mpr ⟨_, supplied _ ⟨bound, later⟩, getD_idxOf declaredSource⟩

theorem firstChoice_name (unique : declared.Nodup) (closed : Closed declared edges)
    {before : List Nat} {node : Nat} (within : before ⊆ List.range declared.length)
    (choice : FirstChoice id (List.range declared.length)
      (Frontier.Waits declared.length (dependentIndices declared (graph declared edges)))
      before node) :
    FirstChoice declared.idxOf declared (Joined edges)
      (before.map fun index => declared.getD index "") (declared.getD node "") := by
  have inside := List.mem_range.mp choice.available.member
  refine ⟨(available_name_iff unique closed within inside).mpr choice.available, ?_⟩
  intro other available
  rw [idxOf_getD unique inside]
  have bound := List.idxOf_lt_length_of_mem available.member
  refine choice.least (declared.idxOf other)
    ((available_name_iff unique closed within bound).mp ?_)
  rw [getD_idxOf available.member]
  exact available

variable (declared edges) in
abbrev frontier : Frontier :=
  .run (declared.map fun node => ((graph declared edges).dependenciesOf node).length)
    (dependentIndices declared (graph declared edges))

variable (declared edges) in
def placedNodes : List NodeId :=
  (frontier declared edges).placed.map fun index => declared.getD index ""

variable (declared edges) in
/-- The nodes left over, in the order of their declaration. -/
def stuckNodes : List NodeId :=
  ((declared.zip (frontier declared edges).waiting).filter
    fun entry => decide (0 < entry.2)).map Prod.fst

theorem executionOrder_eq (declared : List NodeId) (edges : List ResolvedEdge) :
    executionOrder declared (graph declared edges) =
      if (frontier declared edges).placed.length < declared.length then
        .error (.cycle (stuckNodes declared edges))
      else .ok (placedNodes declared edges) := rfl

theorem frontier_reached (unique : declared.Nodup) (closed : Closed declared edges) :
    Frontier.Reached declared.length (dependentIndices declared (graph declared edges))
        (frontier declared edges) ∧
      (frontier declared edges).ready = [] := by
  simpa only [List.length_map] using (counted unique closed).run

theorem greedy_placedNodes (unique : declared.Nodup) (closed : Closed declared edges) :
    Greedy declared.idxOf declared (Joined edges) (placedNodes declared edges) :=
  (frontier_reached unique closed).1.greedy.map _ fun _ _ within choice =>
    firstChoice_name unique closed within choice

theorem mem_placedNodes (unique : declared.Nodup) (closed : Closed declared edges)
    {node : NodeId} :
    node ∈ placedNodes declared edges ↔
      node ∈ declared ∧ declared.idxOf node ∈ (frontier declared edges).placed := by
  have balanced := (frontier_reached unique closed).1.balanced
  rw [placedNodes, List.mem_map]
  constructor
  · intro ⟨index, member, name⟩
    have inside := (balanced.placed index member).1
    subst name
    exact ⟨getD_mem inside, by rwa [idxOf_getD unique inside]⟩
  · intro ⟨member, placed⟩
    exact ⟨_, placed, getD_idxOf member⟩

theorem mem_stuckNodes (unique : declared.Nodup) (closed : Closed declared edges)
    {node : NodeId} :
    node ∈ stuckNodes declared edges ↔
      node ∈ declared ∧ node ∉ placedNodes declared edges := by
  obtain ⟨reached, stuck⟩ := frontier_reached unique closed
  have length := reached.balanced.length
  rw [mem_placedNodes unique closed, stuckNodes, List.mem_map]
  constructor
  · intro ⟨entry, found, name⟩
    obtain ⟨listed, positive⟩ := List.mem_filter.mp found
    obtain ⟨index, bound, rfl⟩ := List.mem_iff_getElem.mp listed
    simp only [List.length_zip, length, Nat.min_self] at bound
    simp only [List.getElem_zip, decide_eq_true_eq] at name positive
    have unplaced := (reached.waiting_pos_iff stuck bound).mp (by
      rwa [List.getD_eq_getElem _ _ (length.symm ▸ bound)])
    subst name
    refine ⟨List.getElem_mem bound, ?_⟩
    rw [unique.idxOf_getElem]
    exact fun placed => unplaced placed.2
  · intro ⟨member, unplaced⟩
    have bound := List.idxOf_lt_length_of_mem member
    have positive := (reached.waiting_pos_iff stuck bound).mpr
      fun placed => unplaced ⟨member, placed⟩
    have inside :
        declared.idxOf node < (declared.zip (frontier declared edges).waiting).length := by
      rwa [List.length_zip, length, Nat.min_self]
    refine ⟨_, List.mem_filter.mpr ⟨List.getElem_mem inside, ?_⟩, ?_⟩
    · rw [List.getD_eq_getElem _ _ (length.symm ▸ bound)] at positive
      rwa [List.getElem_zip, decide_eq_true_eq]
    · rw [List.getElem_zip, List.getElem_idxOf]

theorem stuckNodes_sublist (unique : declared.Nodup) (closed : Closed declared edges) :
    (stuckNodes declared edges).Sublist declared := by
  have length := (frontier_reached unique closed).1.balanced.length
  have shortened := (List.filter_sublist (l := declared.zip (frontier declared edges).waiting)
    (p := fun entry => decide (0 < entry.2))).map Prod.fst
  rwa [List.map_fst_zip length.ge] at shortened

theorem mem_stuckNodes_iff_behindCycle (unique : declared.Nodup)
    (closed : Closed declared edges) {node : NodeId} :
    node ∈ stuckNodes declared edges ↔ BehindCycle (Joined edges) node := by
  obtain ⟨reached, stuck⟩ := frontier_reached unique closed
  constructor
  · refine behindCycle_of_preceded ?_ node
    intro target member
    obtain ⟨declaredTarget, unplaced⟩ := (mem_stuckNodes unique closed).mp member
    have bound := List.idxOf_lt_length_of_mem declaredTarget
    obtain ⟨source, ⟨inside, later⟩, left⟩ := reached.held_back stuck bound
      fun placed => unplaced ((mem_placedNodes unique closed).mpr ⟨declaredTarget, placed⟩)
    obtain ⟨_, joined⟩ := (mem_dependentIndices unique closed inside).mp later
    rw [getD_idxOf declaredTarget] at joined
    refine ⟨_, (mem_stuckNodes unique closed).mpr ⟨getD_mem inside, ?_⟩, joined⟩
    rw [mem_placedNodes unique closed, idxOf_getD unique inside]
    exact fun placed => left placed.2
  · intro behind
    obtain ⟨source, joined, _⟩ := behind.predecessor
    refine (mem_stuckNodes unique closed).mpr ⟨closed.target joined, fun placed => ?_⟩
    exact (greedy_placedNodes unique closed).legal.not_behindCycle node placed behind

theorem stuckNodes_ne_nil (unique : declared.Nodup) (closed : Closed declared edges)
    (short : (frontier declared edges).placed.length < declared.length) :
    stuckNodes declared edges ≠ [] := by
  intro none
  have balanced := (frontier_reached unique closed).1.balanced
  have full : ∀ index < declared.length, index ∈ (frontier declared edges).placed := by
    intro index inside
    by_contra unplaced
    have left : declared.getD index "" ∈ stuckNodes declared edges := by
      rw [mem_stuckNodes unique closed, mem_placedNodes unique closed, idxOf_getD unique inside]
      exact ⟨getD_mem inside, fun placed => unplaced placed.2⟩
    rw [none] at left
    cases left
  have same := (balanced.perm_range full).length_eq
  rw [List.length_range] at same
  omega

theorem placedNodes_perm (unique : declared.Nodup) (closed : Closed declared edges)
    (long : declared.length ≤ (frontier declared edges).placed.length) :
    (placedNodes declared edges).Perm declared := by
  have balanced := (frontier_reached unique closed).1.balanced
  have full : ∀ index < declared.length, index ∈ (frontier declared edges).placed := by
    intro index inside
    by_contra unplaced
    exact absurd (balanced.placed_length_lt inside unplaced) (Nat.not_lt.mpr long)
  have named := (balanced.perm_range full).map fun index => declared.getD index ""
  rwa [map_getD_range] at named

theorem greedy_of_ok (unique : declared.Nodup) (closed : Closed declared edges)
    {order : List NodeId} (found : executionOrder declared (graph declared edges) = .ok order) :
    order.Perm declared ∧ Greedy declared.idxOf declared (Joined edges) order := by
  rw [executionOrder_eq] at found
  split at found
  · cases found
  · rename_i long
    cases found
    exact ⟨placedNodes_perm unique closed (Nat.not_lt.mp long),
      greedy_placedNodes unique closed⟩

theorem behindCycle_of_error (unique : declared.Nodup) (closed : Closed declared edges)
    {error : CompileError}
    (refused : executionOrder declared (graph declared edges) = .error error) :
    ∃ stuck, error = .cycle stuck ∧ stuck ≠ [] ∧ stuck.Sublist declared ∧
      ∀ node, node ∈ stuck ↔ BehindCycle (Joined edges) node := by
  rw [executionOrder_eq] at refused
  split at refused
  · rename_i short
    cases refused
    exact ⟨_, rfl, stuckNodes_ne_nil unique closed short, stuckNodes_sublist unique closed,
      fun _ => mem_stuckNodes_iff_behindCycle unique closed⟩
  · cases refused

end ExecutionOrder

end Flowline
