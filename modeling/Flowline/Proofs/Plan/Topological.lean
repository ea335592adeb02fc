import Flowline.Proofs.Plan.Acceptance

/-!
The execution order of a compiled workflow. It is the topological order of the nodes that takes at
each place the first declared node that is free, so it comes first among all topological orders and
depends on nothing but the nodes and which of them are joined.
-/

namespace Flowline.Workflow

variable {workflow : Workflow} {compiled : CompiledWorkflow}

theorem greedy_order (compiles : workflow.compile = .ok compiled) :
    compiled.plan.order.Perm workflow.nodeIds ∧
      Greedy workflow.nodeIds.idxOf workflow.nodeIds (Joined workflow.resolvedEdges)
        compiled.plan.order := by
  obtain ⟨sound, closed, order, found, rfl⟩ := compile_eq_ok_iff.mp compiles
  exact ExecutionOrder.greedy_of_ok sound.unique closed found

theorem position?_eq_some {plan : Plan} {node : NodeId} (member : node ∈ plan.order) :
    plan.position? node = some (plan.order.idxOf node) :=
  List.findIdx?_eq_some_iff_findIdx_eq.mpr ⟨List.idxOf_lt_length_of_mem member, rfl⟩

theorem closed_iff_joined {declared : List NodeId} {edges : List ResolvedEdge} :
    Closed declared edges ↔
      ∀ source target, Joined edges source target → source ∈ declared ∧ target ∈ declared := by
  constructor
  · intro closed source target joined
    exact ⟨closed.source joined, closed.target joined⟩
  · intro within edge member
    exact within _ _ ⟨edge, member, rfl, rfl⟩

theorem idxOf_injective (declared : List NodeId) :
    ∀ left ∈ declared, ∀ right ∈ declared,
      declared.idxOf left = declared.idxOf right → left = right :=
  fun _ member _ _ => (List.idxOf_inj member).mp

theorem compile_of_same_joins {other : Workflow} (compiles : workflow.compile = .ok compiled)
    (sameNodes : other.nodes = workflow.nodes)
    (sameJoins : ∀ source target,
      Joined other.resolvedEdges source target ↔ Joined workflow.resolvedEdges source target) :
    ∃ otherCompiled, other.compile = .ok otherCompiled ∧
      otherCompiled.plan.order = compiled.plan.order := by
  have joins : Joined other.resolvedEdges = Joined workflow.resolvedEdges := by
    funext source target
    exact propext (sameJoins source target)
  have ids : other.nodeIds = workflow.nodeIds := by rw [nodeIds, sameNodes, nodeIds]
  obtain ⟨sound, closed, acyclic⟩ := exists_compile_iff.mp ⟨compiled, compiles⟩
  have accepted : ∃ otherCompiled, other.compile = .ok otherCompiled := by
    rw [exists_compile_iff, closed_iff_joined, joins, ids, sameNodes, ← closed_iff_joined]
    exact ⟨sound, closed, acyclic⟩
  obtain ⟨otherCompiled, otherCompiles⟩ := accepted
  obtain ⟨perm, greedy⟩ := greedy_order compiles
  obtain ⟨otherPerm, otherGreedy⟩ := greedy_order otherCompiles
  rw [joins, ids] at otherGreedy
  rw [ids] at otherPerm
  exact ⟨otherCompiled, otherCompiles, otherGreedy.unique (idxOf_injective _) greedy
    (otherPerm.trans perm.symm).length_eq⟩

/-- The order is the permutation of the declared nodes that leads every edge forward and has at each
place the free node declared first. It comes first, place by place, among all orders that lead every
edge forward, and other edges between the same pairs of nodes leave it as it is. -/
theorem compile_order (compiles : workflow.compile = .ok compiled) :
    compiled.plan.order.Perm workflow.nodeIds ∧
      (∀ edge ∈ workflow.resolvedEdges, ∃ source target,
        compiled.plan.position? edge.source = some source ∧
          compiled.plan.position? edge.target = some target ∧ source < target) ∧
      (∀ position (inside : position < compiled.plan.order.length),
        FirstChoice workflow.nodeIds.idxOf workflow.nodeIds (Joined workflow.resolvedEdges)
          (compiled.plan.order.take position) compiled.plan.order[position]) ∧
      (∀ other : List NodeId, other.Perm workflow.nodeIds →
        (∀ edge ∈ workflow.resolvedEdges,
          other.idxOf edge.source < other.idxOf edge.target) →
        compiled.plan.order = other ∨
          List.Lex (· < ·) (compiled.plan.order.map workflow.nodeIds.idxOf)
            (other.map workflow.nodeIds.idxOf)) ∧
      ∀ other : Workflow, other.nodes = workflow.nodes →
        (∀ source target, Joined other.resolvedEdges source target ↔
          Joined workflow.resolvedEdges source target) →
        ∃ otherCompiled, other.compile = .ok otherCompiled ∧
          otherCompiled.plan.order = compiled.plan.order := by
  obtain ⟨sound, closed, _⟩ := exists_compile_iff.mp ⟨compiled, compiles⟩
  obtain ⟨perm, greedy⟩ := greedy_order compiles
  refine ⟨perm, ?_, ?_, ?_, ?_⟩
  · intro edge member
    have target : edge.target ∈ compiled.plan.order :=
      perm.mem_iff.mpr (closed edge member).2
    obtain ⟨source, ahead⟩ := greedy.legal.idxOf_lt target ⟨edge, member, rfl, rfl⟩
    exact ⟨_, _, position?_eq_some source, position?_eq_some target, ahead⟩
  · intro position inside
    refine greedy _ _ (compiled.plan.order.drop (position + 1)) ?_
    rw [List.getElem_cons_drop, List.take_append_drop]
  · intro other otherPerm forward
    have unique : other.Nodup := otherPerm.nodup_iff.mpr sound.unique
    have legal : Legal workflow.nodeIds (Joined workflow.resolvedEdges) other := by
      refine legal_of_forward otherPerm.subset unique ?_
      rintro source target ⟨edge, member, rfl, rfl⟩
      exact forward edge member
    exact greedy.eq_or_lex (idxOf_injective _) legal
      (perm.trans otherPerm.symm).length_eq
  · intro other sameNodes sameJoins
    exact compile_of_same_joins compiles sameNodes sameJoins

/-- Four nodes declared against their order, with one pair of them joined twice. -/
def diamond : Workflow where
  id := "diamond"
  nodes := [⟨"d", "t", .null, none⟩, ⟨"b", "t", .null, none⟩, ⟨"c", "t", .null, none⟩,
    ⟨"a", "t", .null, none⟩]
  connections := [⟨"a", "b"⟩, ⟨"a", "c"⟩, ⟨"b", "d"⟩, ⟨"c", "d"⟩, ⟨"a", "b"⟩]

theorem compile_order_diamond :
    diamond.compile = .ok (diamond.assemble ["a", "b", "c", "d"]) ∧
      ∀ position (inside : position < 4),
        FirstChoice diamond.nodeIds.idxOf diamond.nodeIds (Joined diamond.resolvedEdges)
          (["a", "b", "c", "d"].take position) ["a", "b", "c", "d"][position] := by
  have compiles : diamond.compile = .ok (diamond.assemble ["a", "b", "c", "d"]) := rfl
  exact ⟨compiles, (compile_order compiles).2.2.1⟩

end Flowline.Workflow
