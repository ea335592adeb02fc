import Flowline.Plan.Compile
import Flowline.Proofs.Except
import Flowline.Proofs.Plan.ExecutionOrder

/-!
The checks in front of compilation, and what passing all of them assembles. Each check refuses the
first item that is at fault, whatever follows it.
-/

namespace Flowline.Workflow

/-- The type of the node holds something besides blanks. -/
def Node.Typed (node : Node) : Prop :=
  ∃ c ∈ node.type.toList, Text.isBlank c = false

theorem Node.isBlankText_type_iff (node : Node) :
    Text.isBlankText node.type = true ↔ ¬ node.Typed := by
  simp [Text.isBlankText, Node.Typed]

structure Sound (nodes : List Node) : Prop where
  typed : ∀ node ∈ nodes, node.Typed
  unique : (nodes.map Node.id).Nodup

section Nodes

variable {seen : List NodeId} {nodes : List Node} {error : CompileError}

theorem checkNodes_cons (seen : List NodeId) (node : Node) (rest : List Node) :
    checkNodes seen (node :: rest) =
      if Text.isBlankText node.type then .error (.missingType node.id)
      else if seen.contains node.id then .error (.duplicateNode node.id)
      else checkNodes (node.id :: seen) rest := rfl

private theorem checkNodes_after_eq_ok_iff :
    checkNodes seen nodes = .ok () ↔
      Sound nodes ∧ ∀ node ∈ nodes, node.id ∉ seen := by
  induction nodes generalizing seen with
  | nil => exact iff_of_true rfl ⟨⟨by simp, List.nodup_nil⟩, by simp⟩
  | cons node rest ih =>
      rw [checkNodes_cons]
      split
      · rename_i blank
        rw [node.isBlankText_type_iff] at blank
        exact iff_of_false (by simp) fun ⟨sound, _⟩ => blank (sound.typed node (by simp))
      · rename_i typed
        rw [node.isBlankText_type_iff, not_not] at typed
        split
        · rename_i known
          exact iff_of_false (by simp) fun ⟨_, fresh⟩ =>
            fresh node (by simp) (by simpa using known)
        · rename_i unknown
          rw [ih]
          constructor
          · intro ⟨sound, fresh⟩
            refine ⟨⟨?_, ?_⟩, ?_⟩
            · simpa using ⟨typed, sound.typed⟩
            · refine List.nodup_cons.mpr ⟨fun member => ?_, sound.unique⟩
              obtain ⟨other, found, same⟩ := List.mem_map.mp member
              exact fresh other found (by simp [same])
            · intro other member
              rcases List.mem_cons.mp member with rfl | member
              · simpa using unknown
              · exact fun found => fresh other member (by simp [found])
          · intro ⟨sound, fresh⟩
            obtain ⟨new, unique⟩ := List.nodup_cons.mp sound.unique
            refine ⟨⟨fun other member => sound.typed other (by simp [member]), unique⟩, ?_⟩
            intro other member found
            rcases List.mem_cons.mp found with same | found
            · exact new (same ▸ List.mem_map_of_mem member)
            · exact fresh other (by simp [member]) found

theorem checkNodes_eq_ok_iff : checkNodes [] nodes = .ok () ↔ Sound nodes := by
  rw [checkNodes_after_eq_ok_iff]
  simp

/-- The fault of a node behind the ids `earlier`; having no type comes first. -/
inductive Node.Faulty (earlier : List NodeId) (node : Node) : CompileError → Prop
  | untyped (missing : ¬ node.Typed) : Faulty earlier node (.missingType node.id)
  | repeated (typed : node.Typed) (known : node.id ∈ earlier) :
      Faulty earlier node (.duplicateNode node.id)

theorem Node.Faulty.congr {earlier earlier' : List NodeId} {node : Node}
    (faulty : node.Faulty earlier error) (same : ∀ id, id ∈ earlier ↔ id ∈ earlier') :
    node.Faulty earlier' error := by
  cases faulty with
  | untyped missing => exact .untyped missing
  | repeated typed known => exact .repeated typed ((same _).mp known)

private theorem checkNodes_after_of_faulty {before after : List Node} {node : Node}
    (sound : checkNodes seen before = .ok ())
    (faulty : node.Faulty (before.map Node.id ++ seen) error) :
    checkNodes seen (before ++ node :: after) = .error error := by
  induction before generalizing seen with
  | nil =>
      rw [List.nil_append, checkNodes_cons]
      cases faulty with
      | untyped missing => rw [if_pos (node.isBlankText_type_iff.mpr missing)]
      | repeated typed known =>
          rw [if_neg (by rw [node.isBlankText_type_iff, not_not]; exact typed),
            if_pos (by simpa using known)]
  | cons first rest ih =>
      rw [checkNodes_cons] at sound
      rw [List.cons_append, checkNodes_cons]
      split at sound
      · cases sound
      · rename_i typed
        split at sound
        · cases sound
        · rename_i unknown
          rw [if_neg typed, if_neg unknown]
          refine ih sound (faulty.congr fun id => ?_)
          simp only [List.map_cons, List.mem_append, List.mem_cons]
          tauto

private theorem faulty_of_checkNodes_after (refused : checkNodes seen nodes = .error error) :
    ∃ before node after, nodes = before ++ node :: after ∧
      checkNodes seen before = .ok () ∧ node.Faulty (before.map Node.id ++ seen) error := by
  induction nodes generalizing seen with
  | nil => cases refused
  | cons node rest ih =>
      rw [checkNodes_cons] at refused
      split at refused
      · rename_i blank
        cases refused
        exact ⟨[], node, rest, rfl, rfl, .untyped (node.isBlankText_type_iff.mp blank)⟩
      · rename_i typed
        split at refused
        · rename_i known
          cases refused
          rw [node.isBlankText_type_iff, not_not] at typed
          exact ⟨[], node, rest, rfl, rfl, .repeated typed (by simpa using known)⟩
        · rename_i unknown
          obtain ⟨before, faultyNode, after, rfl, sound, faulty⟩ := ih refused
          refine ⟨node :: before, faultyNode, after, rfl, ?_, faulty.congr fun id => ?_⟩
          · rw [checkNodes_cons, if_neg typed, if_neg unknown]
            exact sound
          · simp only [List.map_cons, List.mem_append, List.mem_cons]
            tauto

theorem checkNodes_eq_error_iff :
    checkNodes [] nodes = .error error ↔
      ∃ before node after, nodes = before ++ node :: after ∧ Sound before ∧
        node.Faulty (before.map Node.id) error := by
  constructor
  · intro refused
    obtain ⟨before, node, after, split, sound, faulty⟩ := faulty_of_checkNodes_after refused
    rw [List.append_nil] at faulty
    exact ⟨before, node, after, split, checkNodes_eq_ok_iff.mp sound, faulty⟩
  · intro ⟨before, node, after, split, sound, faulty⟩
    rw [split]
    refine checkNodes_after_of_faulty (checkNodes_eq_ok_iff.mpr sound) ?_
    rwa [List.append_nil]

end Nodes

section Edges

variable {declared : List NodeId} {edges : List ResolvedEdge} {error : CompileError}

inductive UnknownEnd (declared : List NodeId) (edge : ResolvedEdge) : NodeId → Prop
  | source (unknown : edge.source ∉ declared) : UnknownEnd declared edge edge.source
  | target (known : edge.source ∈ declared) (unknown : edge.target ∉ declared) :
      UnknownEnd declared edge edge.target

theorem find?_endpoints_eq_some_iff {edge : ResolvedEdge} {node : NodeId} :
    (edge.endpoints.find? fun node => !declared.contains node) = some node ↔
      UnknownEnd declared edge node := by
  simp only [ResolvedEdge.endpoints, List.find?_cons, List.find?_nil]
  by_cases source : edge.source ∈ declared
  · by_cases target : edge.target ∈ declared
    · simp only [List.contains_iff_mem.mpr source, List.contains_iff_mem.mpr target]
      refine iff_of_false (by simp) fun unknown => ?_
      cases unknown <;> contradiction
    · simp [source, target]
      constructor
      · rintro rfl
        exact .target source target
      · intro unknown
        cases unknown with
        | source => contradiction
        | target => rfl
  · simp [source]
    constructor
    · rintro rfl
      exact .source source
    · intro unknown
      cases unknown with
      | source => rfl
      | target => contradiction

theorem find?_endpoints_eq_none_iff {edge : ResolvedEdge} :
    (edge.endpoints.find? fun node => !declared.contains node) = none ↔
      edge.source ∈ declared ∧ edge.target ∈ declared := by
  simp [ResolvedEdge.endpoints]

theorem closed_cons {edge : ResolvedEdge} :
    Closed declared (edge :: edges) ↔
      (edge.source ∈ declared ∧ edge.target ∈ declared) ∧ Closed declared edges := by
  simp [Closed]

theorem checkEdges_eq_ok_iff : checkEdges declared edges = .ok () ↔ Closed declared edges := by
  induction edges with
  | nil => exact iff_of_true rfl (by simp [Closed])
  | cons edge rest ih =>
      rw [checkEdges, closed_cons, ← find?_endpoints_eq_none_iff]
      split
      · rename_i node unknown
        refine iff_of_false (by simp) fun ⟨known, _⟩ => ?_
        rw [known] at unknown
        cases unknown
      · rename_i known
        rw [ih, and_iff_right known]

theorem checkEdges_eq_error_iff :
    checkEdges declared edges = .error error ↔
      ∃ before edge after node, edges = before ++ edge :: after ∧ Closed declared before ∧
        UnknownEnd declared edge node ∧ error = .unknownNode edge.id node := by
  induction edges with
  | nil => exact iff_of_false (by simp [checkEdges]) (by simp)
  | cons first rest ih =>
      rw [checkEdges]
      split
      · rename_i node unknown
        constructor
        · intro refused
          cases refused
          exact ⟨[], first, rest, node, rfl, by simp [Closed],
            find?_endpoints_eq_some_iff.mp unknown, rfl⟩
        · intro ⟨before, edge, after, other, split, closed, otherUnknown, refusal⟩
          cases before with
          | nil =>
              cases split
              rw [find?_endpoints_eq_some_iff.mpr otherUnknown] at unknown
              cases unknown
              rw [refusal]
          | cons head tail =>
              cases split
              rw [find?_endpoints_eq_none_iff.mpr (closed_cons.mp closed).1] at unknown
              cases unknown
      · rename_i known
        rw [ih]
        constructor
        · intro ⟨before, edge, after, node, split, closed, unknown, refusal⟩
          exact ⟨first :: before, edge, after, node, by rw [split, List.cons_append],
            closed_cons.mpr ⟨find?_endpoints_eq_none_iff.mp known, closed⟩, unknown, refusal⟩
        · intro ⟨before, edge, after, node, split, closed, unknown, refusal⟩
          cases before with
          | nil =>
              cases split
              rw [find?_endpoints_eq_some_iff.mpr unknown] at known
              cases known
          | cons head tail =>
              cases split
              exact ⟨tail, edge, after, node, rfl, (closed_cons.mp closed).2, unknown, refusal⟩

end Edges

section Compile

variable {workflow : Workflow} {compiled : CompiledWorkflow} {error : CompileError}

def assemble (workflow : Workflow) (order : List NodeId) : CompiledWorkflow where
  workflowId := workflow.id
  workflowName := workflow.name
  plan := {
    order
    inputs := inputMappings workflow.resolvedEdges
    outputs := outputMappings workflow.resolvedEdges
    summary := summary workflow.nodeIds workflow.resolvedEdges
      (ExecutionOrder.graph workflow.nodeIds workflow.resolvedEdges) }
  nodes := Entries.ofList (workflow.nodes.mapIdx fun index node =>
    (node.id, plannedNode (inputMappings workflow.resolvedEdges) index node))
  graph := ExecutionOrder.graph workflow.nodeIds workflow.resolvedEdges

theorem compile_eq (workflow : Workflow) :
    workflow.compile =
      (checkNodes [] workflow.nodes).bind fun _ =>
        (checkEdges workflow.nodeIds workflow.resolvedEdges).bind fun _ =>
          (executionOrder workflow.nodeIds
            (ExecutionOrder.graph workflow.nodeIds workflow.resolvedEdges)).bind fun order =>
              .ok (workflow.assemble order) := rfl

theorem compile_eq_ok_iff :
    workflow.compile = .ok compiled ↔
      Sound workflow.nodes ∧ Closed workflow.nodeIds workflow.resolvedEdges ∧
        ∃ order, executionOrder workflow.nodeIds
            (ExecutionOrder.graph workflow.nodeIds workflow.resolvedEdges) = .ok order ∧
          compiled = workflow.assemble order := by
  rw [← checkNodes_eq_ok_iff, ← checkEdges_eq_ok_iff, compile_eq]
  constructor
  · intro accepted
    obtain ⟨_, sound, accepted⟩ := bind_eq_ok_iff.mp accepted
    obtain ⟨_, closed, accepted⟩ := bind_eq_ok_iff.mp accepted
    obtain ⟨order, found, assembled⟩ := bind_eq_ok_iff.mp accepted
    cases assembled
    exact ⟨sound, closed, order, found, rfl⟩
  · intro ⟨sound, closed, order, found, assembled⟩
    subst assembled
    exact bind_eq_ok_iff.mpr ⟨_, sound, bind_eq_ok_iff.mpr ⟨_, closed,
      bind_eq_ok_iff.mpr ⟨order, found, rfl⟩⟩⟩

theorem compile_eq_error_iff :
    workflow.compile = .error error ↔
      checkNodes [] workflow.nodes = .error error ∨
        Sound workflow.nodes ∧
          (checkEdges workflow.nodeIds workflow.resolvedEdges = .error error ∨
            Closed workflow.nodeIds workflow.resolvedEdges ∧
              executionOrder workflow.nodeIds
                (ExecutionOrder.graph workflow.nodeIds workflow.resolvedEdges) =
                  .error error) := by
  rw [← checkNodes_eq_ok_iff, ← checkEdges_eq_ok_iff, compile_eq, bind_eq_error_iff]
  refine or_congr_right ⟨?_, ?_⟩
  · intro ⟨_, sound, refused⟩
    refine ⟨sound, ?_⟩
    rcases bind_eq_error_iff.mp refused with refused | ⟨_, closed, refused⟩
    · exact Or.inl refused
    · rcases bind_eq_error_iff.mp refused with refused | ⟨_, _, impossible⟩
      · exact Or.inr ⟨closed, refused⟩
      · cases impossible
  · intro ⟨sound, refused⟩
    refine ⟨_, sound, bind_eq_error_iff.mpr ?_⟩
    rcases refused with refused | ⟨closed, refused⟩
    · exact Or.inl refused
    · exact Or.inr ⟨_, closed, bind_eq_error_iff.mpr (Or.inl refused)⟩

end Compile

end Flowline.Workflow
