import Flowline.Proofs.Entries
import Flowline.Proofs.Plan.Topological
import Flowline.Proofs.Workflow.Handle

/-!
What a run looks up in a compiled workflow: the nodes under their ids, and the edges into a node in
the order of declaration. Along the order of the plan, the edges into a node come from the front.
-/

namespace Flowline

/-- No node of the list is fed by itself or by a node behind it. -/
def FedFromFront (compiled : CompiledWorkflow) (order : List NodeId) : Prop :=
  ∀ before id after, order = before ++ id :: after →
    ∀ mapping ∈ compiled.plan.inputsOf id, mapping.source ∉ id :: after

namespace FedFromFront

variable {compiled : CompiledWorkflow} {id : NodeId} {rest : List NodeId}

theorem head (forward : FedFromFront compiled (id :: rest)) :
    ∀ mapping ∈ compiled.plan.inputsOf id, mapping.source ∉ id :: rest :=
  forward [] id rest rfl

theorem tail (forward : FedFromFront compiled (id :: rest)) : FedFromFront compiled rest := by
  intro before other after split
  exact forward (id :: before) other after (by rw [split, List.cons_append])

end FedFromFront

namespace Workflow

variable {workflow : Workflow} {compiled : CompiledWorkflow}

theorem inputsOf_compiled (compiles : workflow.compile = .ok compiled) (id : NodeId) :
    compiled.plan.inputsOf id =
      (workflow.resolvedEdges.filter fun edge => edge.target == id).map ResolvedEdge.toInput := by
  obtain ⟨_, _, order, _, rfl⟩ := compile_eq_ok_iff.mp compiles
  exact Entries.get?_foldl_push ResolvedEdge.target ResolvedEdge.toInput workflow.resolvedEdges
    [] id

theorem joined_of_mem_inputsOf (compiles : workflow.compile = .ok compiled) {id : NodeId}
    {mapping : InputMapping} (member : mapping ∈ compiled.plan.inputsOf id) :
    Joined workflow.resolvedEdges mapping.source id := by
  rw [inputsOf_compiled compiles, List.mem_map] at member
  obtain ⟨edge, found, rfl⟩ := member
  obtain ⟨listed, target⟩ := List.mem_filter.mp found
  exact ⟨edge, listed, rfl, eq_of_beq target⟩

theorem sourcePort_ne_empty {edge : ResolvedEdge} (declared : edge ∈ workflow.resolvedEdges) :
    edge.sourcePort ≠ some "" := by
  rcases List.mem_append.mp declared with drawn | connected
  · obtain ⟨index, _, rfl⟩ := List.mem_mapIdx.mp drawn
    intro unnamed
    obtain ⟨handle, _, read⟩ := Option.bind_eq_some_iff.mp unnamed
    exact Handle.port?_ne_empty _ _ _ read
  · obtain ⟨index, _, rfl⟩ := List.mem_mapIdx.mp connected
    exact (Option.some_ne_none _).symm

theorem sourceOutput_ne_empty (compiles : workflow.compile = .ok compiled) {id : NodeId}
    {mapping : InputMapping} (member : mapping ∈ compiled.plan.inputsOf id) :
    mapping.sourceOutput ≠ some "" := by
  rw [inputsOf_compiled compiles, List.mem_map] at member
  obtain ⟨edge, found, rfl⟩ := member
  exact sourcePort_ne_empty (List.mem_filter.mp found).1

/-- Every declared node is found under its id, with the place where it is declared. -/
theorem node?_getElem (compiles : workflow.compile = .ok compiled) {index : Nat}
    (inside : index < workflow.nodes.length) :
    compiled.node? workflow.nodes[index].id =
      some (plannedNode (inputMappings workflow.resolvedEdges) index workflow.nodes[index]) := by
  obtain ⟨sound, _, order, _, rfl⟩ := compile_eq_ok_iff.mp compiles
  refine Entries.get?_ofList_of_mem (List.mem_mapIdx.mpr ⟨index, inside, rfl⟩) ?_
  intro other found
  obtain ⟨place, bound, same⟩ := List.mem_mapIdx.mp found
  obtain ⟨sameId, rfl⟩ := Prod.mk.inj same
  have within : place < (workflow.nodes.map Node.id).length := by simpa using bound
  have declaredWithin : index < (workflow.nodes.map Node.id).length := by simpa using inside
  have samePlace : place = index :=
    (List.Nodup.getElem_inj_iff sound.unique).mp (by simpa using sameId :
      (workflow.nodes.map Node.id)[place] = (workflow.nodes.map Node.id)[index])
  subst samePlace
  rfl

theorem node?_compiled (compiles : workflow.compile = .ok compiled) {node : Node}
    (declared : node ∈ workflow.nodes) :
    ∃ index, compiled.node? node.id =
      some (plannedNode (inputMappings workflow.resolvedEdges) index node) := by
  obtain ⟨index, inside, rfl⟩ := List.mem_iff_getElem.mp declared
  exact ⟨index, node?_getElem compiles inside⟩

theorem mem_order (compiles : workflow.compile = .ok compiled) {id : NodeId} :
    id ∈ compiled.plan.order ↔ ∃ node ∈ workflow.nodes, node.id = id := by
  rw [(greedy_order compiles).1.mem_iff, nodeIds, List.mem_map]

theorem planned_order (compiles : workflow.compile = .ok compiled) :
    ∀ id ∈ compiled.plan.order, ∃ node, compiled.node? id = some node ∧ node.node = id := by
  intro id member
  obtain ⟨node, declared, rfl⟩ := (mem_order compiles).mp member
  obtain ⟨index, found⟩ := node?_compiled compiles declared
  exact ⟨_, found, rfl⟩

theorem nodup_order (compiles : workflow.compile = .ok compiled) : compiled.plan.order.Nodup := by
  obtain ⟨sound, _⟩ := compile_eq_ok_iff.mp compiles
  exact (greedy_order compiles).1.nodup_iff.mpr sound.unique

theorem fedFromFront_order (compiles : workflow.compile = .ok compiled) :
    FedFromFront compiled compiled.plan.order := by
  intro before id after split mapping member
  have unique := nodup_order compiles
  rw [split] at unique
  have placed : mapping.source ∈ before :=
    ((greedy_order compiles).2.legal before id after split).supplied _
      (joined_of_mem_inputsOf compiles member)
  exact fun behind => (List.disjoint_of_nodup_append unique) placed behind

theorem source_placed (compiles : workflow.compile = .ok compiled) {id : NodeId}
    (placed : id ∈ compiled.plan.order) :
    ∀ mapping ∈ compiled.plan.inputsOf id, mapping.source ∈ compiled.plan.order := by
  intro mapping member
  obtain ⟨before, after, split⟩ := List.append_of_mem placed
  have early : mapping.source ∈ before :=
    ((greedy_order compiles).2.legal before id after split).supplied _
      (joined_of_mem_inputsOf compiles member)
  rw [split]
  exact List.mem_append_left _ early

end Workflow

end Flowline
