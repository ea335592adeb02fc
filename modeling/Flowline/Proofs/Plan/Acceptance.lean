import Flowline.Proofs.Plan.Checks

/-!
Which workflows compile, and what each other one is refused for. A workflow compiles exactly if its
nodes are sound, its edges closed and the relation of its edges acyclic.
-/

namespace Flowline.Workflow

variable {workflow : Workflow} {compiled : CompiledWorkflow}

theorem exists_compile_iff :
    (∃ compiled, workflow.compile = .ok compiled) ↔
      Sound workflow.nodes ∧ Closed workflow.nodeIds workflow.resolvedEdges ∧
        Acyclic (Joined workflow.resolvedEdges) := by
  constructor
  · intro ⟨_, compiles⟩
    obtain ⟨sound, closed, order, found, _⟩ := compile_eq_ok_iff.mp compiles
    obtain ⟨perm, greedy⟩ := ExecutionOrder.greedy_of_ok sound.unique closed found
    refine ⟨sound, closed, acyclic_iff_not_behindCycle.mpr fun node behind => ?_⟩
    obtain ⟨source, joined, _⟩ := behind.predecessor
    have placed : node ∈ order := perm.mem_iff.mpr (closed.target joined)
    exact greedy.legal.not_behindCycle node placed behind
  · intro ⟨sound, closed, acyclic⟩
    cases outcome : executionOrder workflow.nodeIds
        (ExecutionOrder.graph workflow.nodeIds workflow.resolvedEdges) with
    | ok order =>
        exact ⟨_, compile_eq_ok_iff.mpr ⟨sound, closed, order, outcome, rfl⟩⟩
    | error error =>
        obtain ⟨stuck, _, some, _, behind⟩ :=
          ExecutionOrder.behindCycle_of_error sound.unique closed outcome
        obtain ⟨node, member⟩ := List.exists_mem_of_ne_nil stuck some
        exact absurd ((behind node).mp member)
          (acyclic_iff_not_behindCycle.mp acyclic node)

/-- What a workflow is refused for: the first node at fault, else the first edge with an undeclared
end, else the nodes behind a cycle in the order of their declaration. -/
inductive Refused (workflow : Workflow) : CompileError → Prop
  | node {before after : List Node} {node : Node} {error : CompileError}
      (split : workflow.nodes = before ++ node :: after)
      (sound : Sound before)
      (faulty : node.Faulty (before.map Node.id) error) :
      Refused workflow error
  | edge {before after : List ResolvedEdge} {edge : ResolvedEdge} {node : NodeId}
      (sound : Sound workflow.nodes)
      (split : workflow.resolvedEdges = before ++ edge :: after)
      (closed : Closed workflow.nodeIds before)
      (unknown : UnknownEnd workflow.nodeIds edge node) :
      Refused workflow (.unknownNode edge.id node)
  | cycle {stuck : List NodeId}
      (sound : Sound workflow.nodes)
      (closed : Closed workflow.nodeIds workflow.resolvedEdges)
      (cyclic : ¬ Acyclic (Joined workflow.resolvedEdges))
      (ordered : stuck.Sublist workflow.nodeIds)
      (behind : ∀ node, node ∈ stuck ↔ BehindCycle (Joined workflow.resolvedEdges) node) :
      Refused workflow (.cycle stuck)

theorem eq_of_sublist {α : Type} {left right whole : List α} (unique : whole.Nodup)
    (leftPart : left.Sublist whole) (rightPart : right.Sublist whole)
    (same : ∀ item, item ∈ left ↔ item ∈ right) : left = right := by
  induction leftPart generalizing right with
  | slnil => exact (List.sublist_nil.mp rightPart).symm
  | @cons left whole item part ih =>
      obtain ⟨absent, unique⟩ := List.nodup_cons.mp unique
      refine ih unique ?_ same
      cases rightPart with
      | cons _ rightPart => exact rightPart
      | cons_cons =>
          exact absurd (part.subset ((same item).mpr (by simp))) absent
  | @cons_cons left whole item part ih =>
      obtain ⟨absent, unique⟩ := List.nodup_cons.mp unique
      cases rightPart with
      | cons _ rightPart =>
          exact absurd (rightPart.subset ((same item).mp (by simp))) absent
      | @cons_cons right _ _ rightPart =>
          refine congrArg (item :: ·) (ih unique rightPart fun other => ?_)
          by_cases head : other = item
          · subst head
            exact iff_of_false (fun member => absent (part.subset member))
              fun member => absent (rightPart.subset member)
          · simpa [head] using same other

theorem refused_of_compile {error : CompileError} (refused : workflow.compile = .error error) :
    workflow.Refused error := by
  rcases compile_eq_error_iff.mp refused with refused | ⟨sound, refused | ⟨closed, refused⟩⟩
  · obtain ⟨before, node, after, split, sound, faulty⟩ := checkNodes_eq_error_iff.mp refused
    exact .node split sound faulty
  · obtain ⟨before, edge, after, node, split, closed, unknown, rfl⟩ :=
      checkEdges_eq_error_iff.mp refused
    exact .edge sound split closed unknown
  · obtain ⟨stuck, rfl, some, ordered, behind⟩ :=
      ExecutionOrder.behindCycle_of_error sound.unique closed refused
    obtain ⟨node, member⟩ := List.exists_mem_of_ne_nil stuck some
    refine .cycle sound closed (fun acyclic => ?_) ordered behind
    exact acyclic_iff_not_behindCycle.mp acyclic node ((behind node).mp member)

theorem compile_of_refused {error : CompileError} (refused : workflow.Refused error) :
    workflow.compile = .error error := by
  cases refused with
  | node split sound faulty =>
      exact compile_eq_error_iff.mpr
        (Or.inl (checkNodes_eq_error_iff.mpr ⟨_, _, _, split, sound, faulty⟩))
  | edge sound split closed unknown =>
      exact compile_eq_error_iff.mpr (Or.inr ⟨sound, Or.inl
        (checkEdges_eq_error_iff.mpr ⟨_, _, _, _, split, closed, unknown, rfl⟩)⟩)
  | @cycle stuck sound closed cyclic ordered behind =>
      cases outcome : executionOrder workflow.nodeIds
          (ExecutionOrder.graph workflow.nodeIds workflow.resolvedEdges) with
      | ok order =>
          have compiles := exists_compile_iff.mp
            ⟨_, compile_eq_ok_iff.mpr ⟨sound, closed, order, outcome, rfl⟩⟩
          exact absurd compiles.2.2 cyclic
      | error error =>
          obtain ⟨listed, rfl, _, listedOrdered, listedBehind⟩ :=
            ExecutionOrder.behindCycle_of_error sound.unique closed outcome
          have same : listed = stuck := eq_of_sublist sound.unique listedOrdered ordered
            fun node => (listedBehind node).trans (behind node).symm
          subst same
          exact compile_eq_error_iff.mpr (Or.inr ⟨sound, Or.inr ⟨closed, outcome⟩⟩)

/-- A workflow compiles exactly if its nodes have types and distinct ids, its edges join declared
nodes, and there is no directed cycle; every other one is refused for the first cause there is. -/
theorem compile_verdict (workflow : Workflow) :
    ((∃ compiled, workflow.compile = .ok compiled) ↔
      (∀ node ∈ workflow.nodes, ∃ c ∈ node.type.toList, Text.isBlank c = false) ∧
        workflow.nodeIds.Nodup ∧
        (∀ edge ∈ workflow.resolvedEdges,
          edge.source ∈ workflow.nodeIds ∧ edge.target ∈ workflow.nodeIds) ∧
        ∀ node, ¬ Relation.TransGen (Joined workflow.resolvedEdges) node node) ∧
      ∀ error, workflow.compile = .error error ↔ workflow.Refused error := by
  refine ⟨?_, fun error => ⟨refused_of_compile, compile_of_refused⟩⟩
  rw [exists_compile_iff]
  constructor
  · intro ⟨sound, closed, acyclic⟩
    exact ⟨sound.typed, sound.unique, closed, acyclic⟩
  · intro ⟨typed, unique, closed, acyclic⟩
    exact ⟨⟨typed, unique⟩, closed, acyclic⟩

end Flowline.Workflow
