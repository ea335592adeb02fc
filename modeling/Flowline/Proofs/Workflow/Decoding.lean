import Flowline.Proofs.Lists
import Flowline.Proofs.Workflow.Building

/-!
Decoding undoes building. Whatever texts ids and ports are, the steps of a builder can be read off
the workflow: the edges with their ports, the connections after them, all under different ids, and
the nodes, each with the last config that it was given.
-/

namespace Flowline.Workflow

namespace BuildStep

def isNode : BuildStep → Bool
  | .node _ _ => true
  | _ => false

def config? : BuildStep → Option Json
  | .config value => some value
  | _ => none

end BuildStep

/-- The configs that are set before the next node is added. -/
def leadingConfigs (steps : List BuildStep) : List Json :=
  (steps.takeWhile fun step => !step.isNode).filterMap BuildStep.config?

/-- The nodes that the steps add, each with the last config before the next one. -/
def declarations : List BuildStep → List Node
  | [] => []
  | .node id type :: rest =>
    ⟨id, type, (leadingConfigs rest).getLast?.getD .null, none⟩ :: declarations rest
  | _ :: rest => declarations rest

theorem configureLast_append (config : Json) (nodes : List Node) (last : Node) :
    configureLast config (nodes ++ [last]) = nodes ++ [{ last with config }] := by
  induction nodes with
  | nil => rfl
  | cons first rest ih =>
      cases rest with
      | nil => rfl
      | cons second rest => exact congrArg (first :: ·) ih

theorem foldl_configureLast_append (configs : List Json) (nodes : List Node) (last : Node) :
    configs.foldl (fun nodes config => configureLast config nodes) (nodes ++ [last]) =
      nodes ++ [{ last with config := configs.getLast?.getD last.config }] := by
  induction configs generalizing last with
  | nil => rfl
  | cons config rest ih =>
      rw [List.foldl_cons, configureLast_append, ih, List.getLast?_cons, Option.getD_some]

/-- The configs in front of the first node go to the node that was added last. -/
theorem nodes_foldl (steps : List BuildStep) (workflow : Workflow) :
    (steps.foldl apply workflow).nodes =
      (leadingConfigs steps).foldl (fun nodes config => configureLast config nodes)
        workflow.nodes ++ declarations steps := by
  induction steps generalizing workflow with
  | nil => exact (List.append_nil _).symm
  | cons step rest ih =>
      rw [List.foldl_cons, ih]
      cases step with
      | node id type =>
          simp only [apply, addNode, foldl_configureLast_append, List.append_assoc]
          rfl
      | _ => rfl

theorem nodes_build (id name : String) (steps : List BuildStep) :
    (build id name steps).nodes = declarations steps := by
  have unchanged (configs : List Json) :
      configs.foldl (fun nodes config => configureLast config nodes) [] = [] := by
    induction configs with
    | nil => rfl
    | cons config rest ih => exact ih
  rw [build, nodes_foldl, unchanged, List.nil_append]

theorem kind_resolved_eq (index : Nat) (wire : Wire) :
    (wire.resolved index).kind =
      if wire.targetPort = triggerPort then .trigger else .data := by
  split
  · rename_i gate
    exact (wire.kind_resolved index).mpr gate
  · rename_i apart
    cases kind : (wire.resolved index).kind with
    | data => rfl
    | trigger => exact absurd ((wire.kind_resolved index).mp kind) apart

theorem numbered_injective (label : String) :
    Function.Injective fun number : Nat => label ++ number.repr := by
  intro left right same
  have digits := congrArg String.toList ((String.append_right_inj label).mp same)
  rw [Nat.toList_repr, Nat.toList_repr] at digits
  simpa using congrArg (fun digits => Nat.ofDigitChars 10 digits 0) digits

section Edges

variable (id name : String) (steps : List BuildStep)

theorem ids_build :
    (build id name steps).resolvedEdges.map ResolvedEdge.id =
      (List.range (wires steps).length).map (fun index => "edge-" ++ (index + 1).repr) ++
        (List.range (steps.filterMap BuildStep.connection?).length).map
          fun index => "connection-" ++ index.repr := by
  rw [resolvedEdges_build, List.map_append, map_mapIdx, map_mapIdx, ← mapIdx_numbers,
    ← mapIdx_numbers]
  rfl

theorem nodup_ids_build : ((build id name steps).resolvedEdges.map ResolvedEdge.id).Nodup := by
  rw [ids_build, List.nodup_append]
  refine ⟨List.nodup_range.map ?_, List.nodup_range.map (numbered_injective _), ?_⟩
  · exact (numbered_injective "edge-").comp Nat.succ_injective
  · intro edge edgeId connection connectionId same
    obtain ⟨place, _, rfl⟩ := List.mem_map.mp edgeId
    obtain ⟨other, _, rfl⟩ := List.mem_map.mp connectionId
    have firstChars := congrArg (fun text => text.toList.head?) same
    simp at firstChars

theorem kinds_build :
    (build id name steps).resolvedEdges.map ResolvedEdge.kind =
      ((wires steps).map fun wire =>
        if wire.targetPort = triggerPort then .trigger else .data) ++
        (steps.filterMap BuildStep.connection?).map fun _ => .data := by
  rw [resolvedEdges_build, List.map_append, map_mapIdx, map_mapIdx]
  simp only [kind_resolved_eq, mapIdx_unnumbered]
  exact congrArg _ (mapIdx_unnumbered _ _)

end Edges

/-- What is built resolves to the edges of the steps in their order, numbered from one and with just
the ports that were given, and to the connections behind them. No two of them have the same id, and
the nodes are those of the steps, each with its last config. -/
theorem build_decodes (id name : String) (steps : List BuildStep) :
    (build id name steps).resolvedEdges =
        ((wires steps).mapIdx fun index wire =>
          { id := "edge-" ++ (index + 1).repr
            source := wire.source
            target := wire.target
            sourcePort := if wire.sourcePort = "" then none else some wire.sourcePort
            targetPort := if wire.targetPort = "" then none else some wire.targetPort }) ++
          ((steps.filterMap BuildStep.connection?).mapIdx fun index connection =>
            { id := "connection-" ++ index.repr
              source := connection.source
              target := connection.target
              sourcePort := none
              targetPort := none }) ∧
      (build id name steps).resolvedEdges.map ResolvedEdge.kind =
        ((wires steps).map fun wire =>
          if wire.targetPort = triggerPort then .trigger else .data) ++
          ((steps.filterMap BuildStep.connection?).map fun _ => .data) ∧
      ((build id name steps).resolvedEdges.map ResolvedEdge.id).Nodup ∧
      (build id name steps).nodes = declarations steps :=
  ⟨resolvedEdges_build id name steps, kinds_build id name steps, nodup_ids_build id name steps,
    nodes_build id name steps⟩

end Flowline.Workflow
