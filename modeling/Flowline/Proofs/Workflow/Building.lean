import Flowline.Proofs.Plan.Routing
import Flowline.Workflow.Building

/-!
What a workflow that was built step by step resolves to. The handles that are written for an edge
are read back as the ports that were asked for, so the edges are those of the steps, in order.
-/

namespace Flowline.Workflow

/-- An edge as a step asks for it. -/
structure Wire where
  source : NodeId
  sourcePort : PortId
  target : NodeId
  targetPort : PortId
deriving DecidableEq

namespace Wire

def edge (index : Nat) (wire : Wire) : Edge where
  id := "edge-" ++ (index + 1).repr
  source := wire.source
  target := wire.target
  sourceHandle := some (Handle.write .output wire.source wire.sourcePort)
  targetHandle := some (Handle.write .input wire.target wire.targetPort)

def resolved (index : Nat) (wire : Wire) : ResolvedEdge where
  id := "edge-" ++ (index + 1).repr
  source := wire.source
  target := wire.target
  sourcePort := Handle.named? wire.sourcePort
  targetPort := Handle.named? wire.targetPort

theorem resolve_edge (place index : Nat) (wire : Wire) :
    (wire.edge index).resolve place = wire.resolved index := by
  have labelled : ("edge-" ++ (index + 1).repr).isEmpty = false := by
    simp
  simp only [Edge.resolve, edge, resolved, labelled, Option.bind_some, Handle.port?_write]
  rfl

theorem kind_resolved (index : Nat) (wire : Wire) :
    (wire.resolved index).kind = .trigger ↔ wire.targetPort = triggerPort := by
  have listening : (wire.resolved index).targetPort = some triggerPort ↔
      wire.targetPort = triggerPort := by
    simp [resolved, Handle.named?_eq_some_iff, triggerPort]
  rw [← listening, ResolvedEdge.kind]
  split
  · rename_i enters
    exact iff_of_true rfl enters
  · rename_i apart
    exact iff_of_false nofun apart

end Wire

namespace BuildStep

def wire? : BuildStep → Option Wire
  | .edge source sourcePort target targetPort => some ⟨source, sourcePort, target, targetPort⟩
  | .trigger source branch target => some ⟨source, branch, target, triggerPort⟩
  | _ => none

def connection? : BuildStep → Option Connection
  | .connect source target => some ⟨source, target⟩
  | _ => none

end BuildStep

/-- The edges that the steps ask for, in order. -/
def wires (steps : List BuildStep) : List Wire := steps.filterMap BuildStep.wire?

theorem wires_cons (step : BuildStep) (rest : List BuildStep) :
    wires (step :: rest) = step.wire?.toList ++ wires rest := by
  rw [wires, List.filterMap_cons]
  cases step.wire? <;> rfl

theorem edges_apply (workflow : Workflow) (step : BuildStep) :
    (workflow.apply step).edges =
      workflow.edges ++ step.wire?.toList.map (Wire.edge workflow.edges.length) := by
  cases step with
  | edge => rfl
  | trigger => rfl
  | _ => exact (List.append_nil _).symm

theorem edges_foldl (steps : List BuildStep) (workflow : Workflow) :
    (steps.foldl apply workflow).edges =
      workflow.edges ++
        (wires steps).mapIdx fun index wire => wire.edge (workflow.edges.length + index) := by
  induction steps generalizing workflow with
  | nil => exact (List.append_nil _).symm
  | cons step rest ih =>
      rw [List.foldl_cons, ih, edges_apply, wires_cons]
      cases step.wire? with
      | none => simp
      | some wire =>
          have shifted (index : Nat) : workflow.edges.length + 1 + index =
              workflow.edges.length + (index + 1) := by
            omega
          simp [List.mapIdx_cons, shifted]

theorem connections_foldl (steps : List BuildStep) (workflow : Workflow) :
    (steps.foldl apply workflow).connections =
      workflow.connections ++ steps.filterMap BuildStep.connection? := by
  induction steps generalizing workflow with
  | nil => simp
  | cons step rest ih =>
      rw [List.foldl_cons, ih]
      cases step with
      | connect => simp [apply, connect, BuildStep.connection?]
      | _ => rfl

theorem resolvedEdges_build (id name : String) (steps : List BuildStep) :
    (build id name steps).resolvedEdges =
      (wires steps).mapIdx Wire.resolved ++
        (steps.filterMap BuildStep.connection?).mapIdx Connection.resolve := by
  have read : (fun (index : Nat) => Edge.resolve index ∘ Wire.edge index) = Wire.resolved :=
    funext fun index => funext fun wire => wire.resolve_edge index index
  rw [resolvedEdges, build, edges_foldl, connections_foldl]
  simp only [List.nil_append, List.length_nil, Nat.zero_add, List.mapIdx_mapIdx, ← read]

/-- The trigger edges that the steps draw into a node, each as a source and its branch. -/
def gates (steps : List BuildStep) (target : NodeId) : List (NodeId × PortId) :=
  ((wires steps).filter fun wire => wire.target == target && wire.targetPort == triggerPort).map
    fun wire => (wire.source, wire.sourcePort)

variable {id name : String} {steps : List BuildStep} {compiled : CompiledWorkflow}
  {target : NodeId}

theorem mem_gates {gate : NodeId × PortId} :
    gate ∈ gates steps target ↔ ⟨gate.1, gate.2, target, triggerPort⟩ ∈ wires steps := by
  constructor
  · intro member
    obtain ⟨wire, found, rfl⟩ := List.mem_map.mp member
    obtain ⟨listed, here⟩ := List.mem_filter.mp found
    rw [Bool.and_eq_true, beq_iff_eq, beq_iff_eq] at here
    obtain ⟨rfl, port⟩ := here
    rw [← port]
    exact listed
  · intro listed
    exact List.mem_map.mpr ⟨_, List.mem_filter.mpr ⟨listed, by simp⟩, rfl⟩

theorem exists_trigger_iff (compiles : (build id name steps).compile = .ok compiled)
    (holds : NodeId → Option PortId → Prop) :
    (∃ mapping ∈ compiled.plan.inputsOf target, mapping.kind = .trigger ∧
        holds mapping.source mapping.sourceOutput) ↔
      ∃ gate ∈ gates steps target, holds gate.1 (Handle.named? gate.2) := by
  rw [inputsOf_compiled compiles, resolvedEdges_build]
  constructor
  · rintro ⟨mapping, member, trigger, held⟩
    obtain ⟨edge, found, rfl⟩ := List.mem_map.mp member
    obtain ⟨listed, here⟩ := List.mem_filter.mp found
    rcases List.mem_append.mp listed with drawn | connected
    · obtain ⟨index, inside, rfl⟩ := List.mem_mapIdx.mp drawn
      have enters := (Wire.kind_resolved index _).mp trigger
      refine ⟨(_, _), mem_gates.mpr ?_, held⟩
      rw [← enters, ← eq_of_beq here]
      exact List.getElem_mem inside
    · obtain ⟨index, inside, rfl⟩ := List.mem_mapIdx.mp connected
      cases trigger
  · rintro ⟨gate, member, held⟩
    obtain ⟨index, inside, same⟩ := List.mem_iff_getElem.mp (mem_gates.mp member)
    have trigger := (Wire.kind_resolved index ⟨gate.1, gate.2, target, triggerPort⟩).mpr rfl
    have drawn : Wire.resolved index ⟨gate.1, gate.2, target, triggerPort⟩ ∈
        (wires steps).mapIdx Wire.resolved := List.mem_mapIdx.mpr ⟨index, inside, by rw [same]⟩
    refine ⟨_, List.mem_map_of_mem (List.mem_filter.mpr ⟨List.mem_append_left _ drawn, ?_⟩),
      trigger, held⟩
    exact beq_self_eq_true target

end Flowline.Workflow
