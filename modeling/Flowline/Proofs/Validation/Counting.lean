import Flowline.Proofs.Graph.WorkLoop
import Flowline.Proofs.Validation.CycleReport

/-!
The two loops that count down what nodes wait for: the one that places the nodes of a plan, on
indices, and the one that looks for cycles, on ids. Whatever the workflow, neither counts below zero
or lets a node into its work list twice, and both end after as many rounds as nodes are declared.
-/

namespace Flowline

namespace Frontier

variable {waiting : List Nat} {dependents : Nat → List Nat}

/-- The loop that places nodes; those that are ready make up its work list. -/
def loop (dependents : Nat → List Nat) : WorkLoop Frontier Nat where
  pending := ready
  advance := fun frontier node rest =>
    { frontier with ready := rest, placed := frontier.placed ++ [node] }
  targets := dependents
  count := fun frontier node => frontier.waiting.getD node 0
  lower := release

theorem drain_loop (rounds : Nat) (frontier : Frontier) :
    (loop dependents).drain rounds frontier = drain dependents rounds frontier := by
  induction rounds generalizing frontier with
  | zero => rfl
  | succ rounds ih =>
      obtain ⟨waiting, ready, placed⟩ := frontier
      cases ready with
      | nil => rfl
      | cons node rest => exact ih _

theorem insertAscending_perm (node : Nat) (nodes : List Nat) :
    (insertAscending node nodes).Perm (nodes ++ [node]) := by
  refine List.Perm.trans ?_ (List.perm_append_singleton node nodes).symm
  induction nodes with
  | nil => exact List.Perm.refl _
  | cons other rest ih =>
      unfold insertAscending
      split
      · exact List.Perm.refl _
      · exact (ih.cons other).trans (.swap node other rest)

theorem loop_lawful (dependents : Nat → List Nat) : (loop dependents).Lawful where
  advance := fun _ _ _ => rfl
  lower := by
    intro frontier node (positive : 0 < frontier.waiting.getD node 0)
    have last_iff : frontier.waiting.getD node 0 - 1 = 0 ↔ frontier.waiting.getD node 0 = 1 := by
      omega
    change (frontier.release node).ready.Perm
      (frontier.ready ++ if frontier.waiting.getD node 0 = 1 then [node] else [])
    simp only [release_ready, last_iff]
    split
    · exact insertAscending_perm node frontier.ready
    · rw [List.append_nil]
  apart := by
    intro frontier node other apart
    simp only [loop, release_waiting, List.getD_eq_getElem?_getD, List.getElem?_set_ne apart.symm]

theorem Counted.keeps (counted : Counted waiting dependents) :
    (loop dependents).Keeps (List.range waiting.length) fun before frontier =>
      frontier.placed = before ∧ Reached waiting.length dependents frontier where
  unique := by
    rintro _ frontier ⟨rfl, reached⟩
    have balanced := reached.balanced
    refine balanced.nodup.append (balanced.ascending.imp fun below => below.ne) ?_
    exact fun node placed ready => ((balanced.ready node).mp ready).2.1 placed
  within := by
    rintro _ frontier ⟨rfl, reached⟩ node member
    rw [List.mem_range]
    rcases List.mem_append.mp member with placed | ready
    · exact (reached.balanced.placed node placed).1
    · exact ((reached.balanced.ready node).mp ready).1
  distinct := by
    rintro _ frontier node rest ⟨rfl, reached⟩ (next : frontier.ready = node :: rest)
    have ready : node ∈ frontier.ready := next.symm ▸ List.mem_cons_self
    exact counted.nodup node ((reached.balanced.ready node).mp ready).1
  counted := by
    rintro _ frontier node rest ⟨rfl, reached⟩ (next : frontier.ready = node :: rest) target
      (joined : target ∈ dependents node)
    have ready : node ∈ frontier.ready := next.symm ▸ List.mem_cons_self
    obtain ⟨inside, unplaced, _⟩ := (reached.balanced.ready node).mp ready
    have bound := counted.bounded node inside target joined
    refine ⟨List.mem_range.mpr bound, ?_⟩
    -- The node that is taken is itself among those that the target waits for.
    have held : node ∈ holders waiting.length dependents frontier.placed target := by
      simp [holders, inside, joined, unplaced]
    change 0 < frontier.waiting.getD target 0
    rw [reached.balanced.waiting target bound]
    exact Finset.card_pos.mpr ⟨node, held⟩
  round := by
    rintro _ frontier node rest ⟨rfl, reached⟩ next
    exact ⟨place_placed frontier node rest, reached.place counted.bounded counted.nodup next⟩

theorem Counted.safe (counted : Counted waiting dependents) :
    (loop dependents).Safe (List.range waiting.length) (.start waiting)
      (.run waiting dependents) := by
  refine counted.keeps.safe (loop_lawful dependents) ⟨rfl, counted.start⟩ ?_
  rw [List.length_range, drain_loop, Frontier.run]

end Frontier

namespace Elimination

open DependencyGraph (targetsOf)

variable {nodes : List NodeId} {pairs : List (NodeId × NodeId)}

/-- The loop that takes nodes away one by one. -/
def loop (pairs : List (NodeId × NodeId)) : WorkLoop Elimination NodeId where
  pending := queue
  advance := fun state _ rest => { state with queue := rest }
  targets := targetsOf pairs
  count := fun state node => (Entries.get? state.opened node).getD 0
  lower := close

theorem drain_loop (rounds : Nat) (state : Elimination) :
    (loop pairs).drain rounds state = drain pairs rounds state := by
  induction rounds generalizing state with
  | zero => rfl
  | succ rounds ih =>
      obtain ⟨opened, queue⟩ := state
      cases queue with
      | nil => rfl
      | cons node rest => exact ih _

theorem loop_lawful (pairs : List (NodeId × NodeId)) : (loop pairs).Lawful where
  advance := fun _ _ _ => rfl
  lower := by
    intro state node (positive : 0 < (Entries.get? state.opened node).getD 0)
    obtain ⟨count, found⟩ : ∃ count, Entries.get? state.opened node = some count :=
      Option.ne_none_iff_exists'.mp fun absent => by simp [absent] at positive
    rw [found, Option.getD_some] at positive
    have last_iff : count - 1 = 0 ↔ count = 1 := by omega
    change (state.close node).queue.Perm
      (state.queue ++ if (Entries.get? state.opened node).getD 0 = 1 then [node] else [])
    simp [queue_close, freed, found, last_iff]
  apart := by
    intro state node other apart
    simp only [loop, get?_close, if_neg apart, Option.map_id']

theorem Listed.keeps (listed : Listed nodes pairs) :
    (loop pairs).Keeps nodes fun before state => Balanced nodes pairs before state where
  unique := fun balanced => balanced.unique
  within := by
    intro before state balanced node member
    rcases List.mem_append.mp member with gone | next
    · exact balanced.legal.subset gone
    · exact ((balanced.queue node).mp next).member
  distinct := fun _ _ => DependencyGraph.nodup_targetsOf listed.distinct
  counted := by
    intro before state node rest balanced (next : state.queue = node :: rest) target joined
    have queued : node ∈ state.queue := next.symm ▸ List.mem_cons_self
    have fresh := ((balanced.queue node).mp queued).fresh
    have inside := (listed.closed node target (DependencyGraph.mem_targetsOf.mp joined)).2
    -- The pair from the node that is taken is among those still open.
    have held : (node, target) ∈ openPairs pairs before target :=
      (mem_openPairs_of_targetsOf fresh).mpr joined
    refine ⟨inside, ?_⟩
    simp only [loop, balanced.opened, if_pos inside, Option.getD_some]
    exact List.length_pos_of_mem held
  round := fun balanced next => balanced.takeAway listed next

theorem Listed.safe (listed : Listed nodes pairs) :
    (loop pairs).Safe nodes (start nodes pairs) (run nodes pairs) := by
  refine listed.keeps.safe (loop_lawful pairs) (Balanced.start listed) ?_
  rw [drain_loop, run]

end Elimination

namespace Workflow

/-- Nodes and edges that pass the checks are counted down safely when the nodes are placed, each
index that is taken being that of a declared node. Looking for cycles is safe whatever the workflow,
and in whatever order nodes and pairs are looked at. -/
theorem countdowns_safe (workflow : Workflow) :
    (checkNodes [] workflow.nodes = .ok () →
      checkEdges workflow.nodeIds workflow.resolvedEdges = .ok () →
        let graph := ExecutionOrder.graph workflow.nodeIds workflow.resolvedEdges
        let waiting := workflow.nodeIds.map fun node => (graph.dependenciesOf node).length
        (Frontier.loop (dependentIndices workflow.nodeIds graph)).Safe
          (List.range workflow.nodes.length) (.start waiting)
          (ExecutionOrder.frontier workflow.nodeIds workflow.resolvedEdges)) ∧
      ∀ nodes pairs, nodes.Perm (distinct workflow.nodeIds) →
        pairs.Perm (declaredPairs workflow.nodeIds workflow.resolvedEdges) →
          (Elimination.loop pairs).Safe workflow.nodeIds (.start nodes pairs)
            (.run nodes pairs) := by
  constructor
  · intro nodesChecked edgesChecked graph waiting
    have unique : workflow.nodeIds.Nodup := (checkNodes_eq_ok_iff.mp nodesChecked).unique
    have closed := checkEdges_eq_ok_iff.mp edgesChecked
    have safe := (ExecutionOrder.counted unique closed).safe
    have declared : workflow.nodeIds.length = workflow.nodes.length := List.length_map _
    rw [List.length_map, declared] at safe
    exact safe
  · intro nodes pairs sameNodes samePairs
    have listed := listed_of_perm sameNodes samePairs
    have within : nodes ⊆ workflow.nodeIds := fun node member =>
      mem_distinct.mp (sameNodes.mem_iff.mp member)
    exact listed.safe.mono within (listed.unique.subperm within).length_le

/-- The circle keeps all but the node in front of it from being taken; it is the same with an edge
drawn twice, ids declared twice and edges that dangle. -/
theorem countdowns_safe_knotted :
    let graph := ExecutionOrder.graph circular.nodeIds circular.resolvedEdges
    let waiting := circular.nodeIds.map fun node => (graph.dependenciesOf node).length
    let placing := Frontier.loop (dependentIndices circular.nodeIds graph)
    let nodes := (distinct knotted.nodeIds).reverse
    let pairs := (declaredPairs knotted.nodeIds knotted.resolvedEdges).reverse
    let removing := Elimination.loop pairs
    checkNodes [] circular.nodes = .ok () ∧
      checkEdges circular.nodeIds circular.resolvedEdges = .ok () ∧
      placing.Safe (List.range circular.nodes.length) (.start waiting)
        (ExecutionOrder.frontier circular.nodeIds circular.resolvedEdges) ∧
      placing.history 4 (.start waiting) = [.enter 2, .take 2, .lower 1 2] ∧
      nodes.Perm (distinct knotted.nodeIds) ∧
      pairs.Perm (declaredPairs knotted.nodeIds knotted.resolvedEdges) ∧
      removing.Safe knotted.nodeIds (.start nodes pairs) (.run nodes pairs) ∧
      removing.history 6 (.start nodes pairs) =
        [.enter "front", .take "front", .lower "left" 2] := by
  intro graph waiting placing nodes pairs removing
  have nodesChecked : checkNodes [] circular.nodes = .ok () := by decide +kernel
  have edgesChecked : checkEdges circular.nodeIds circular.resolvedEdges = .ok () := by
    decide +kernel
  have sameNodes : nodes.Perm (distinct knotted.nodeIds) := List.reverse_perm _
  have samePairs : pairs.Perm (declaredPairs knotted.nodeIds knotted.resolvedEdges) :=
    List.reverse_perm _
  exact ⟨nodesChecked, edgesChecked,
    (countdowns_safe circular).1 nodesChecked edgesChecked, by decide +kernel, sameNodes, samePairs,
    (countdowns_safe knotted).2 nodes pairs sameNodes samePairs, by decide +kernel⟩

end Workflow

end Flowline
