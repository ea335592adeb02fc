import Flowline.Plan.DependencyGraph
import Flowline.Proofs.Entries
import Mathlib.Data.List.Nodup

/-!
The dependency graph holds each joined pair of nodes once, seen from both ends.
-/

namespace Flowline

section Distinct

variable {α : Type} [DecidableEq α]

private def keepFirst (seen : List α) (item : α) : List α :=
  if seen.contains item then seen else seen ++ [item]

private theorem mem_foldl_keepFirst (items seen : List α) (item : α) :
    item ∈ items.foldl keepFirst seen ↔ item ∈ seen ∨ item ∈ items := by
  induction items generalizing seen with
  | nil => simp
  | cons first rest ih =>
      rw [List.foldl_cons, ih, keepFirst]
      split
      · rename_i known
        have present : first ∈ seen := by simpa using known
        rw [List.mem_cons]
        constructor
        · tauto
        · rintro (member | rfl | member)
          · exact Or.inl member
          · exact Or.inl present
          · exact Or.inr member
      · rw [List.mem_append, List.mem_singleton, List.mem_cons, or_assoc]

private theorem nodup_foldl_keepFirst (items seen : List α) (nodup : seen.Nodup) :
    (items.foldl keepFirst seen).Nodup := by
  induction items generalizing seen with
  | nil => exact nodup
  | cons first rest ih =>
      rw [List.foldl_cons]
      refine ih _ ?_
      rw [keepFirst]
      split
      · exact nodup
      · rename_i unknown
        simpa only [List.concat_eq_append] using nodup.concat (by simpa using unknown)

@[simp] theorem mem_distinct {items : List α} {item : α} :
    item ∈ distinct items ↔ item ∈ items :=
  (mem_foldl_keepFirst items [] item).trans (or_iff_right List.not_mem_nil)

theorem nodup_distinct (items : List α) : (distinct items).Nodup :=
  nodup_foldl_keepFirst items [] List.nodup_nil

end Distinct

theorem mem_dependencyPairs {edges : List ResolvedEdge} {source target : NodeId} :
    (source, target) ∈ dependencyPairs edges ↔
      ∃ edge ∈ edges, edge.source = source ∧ edge.target = target := by
  simp [dependencyPairs]

namespace DependencyGraph

variable {nodes : List NodeId} {pairs : List (NodeId × NodeId)} {source target : NodeId}

theorem mem_sourcesOf : source ∈ sourcesOf pairs target ↔ (source, target) ∈ pairs := by
  simp [sourcesOf]

theorem mem_targetsOf : target ∈ targetsOf pairs source ↔ (source, target) ∈ pairs := by
  simp [targetsOf]

theorem nodup_sourcesOf (nodup : pairs.Nodup) : (sourcesOf pairs target).Nodup := by
  refine (nodup.filter _).map_on ?_
  intro left leftMember right rightMember same
  simp only [List.mem_filter, beq_iff_eq] at leftMember rightMember
  exact Prod.ext same (leftMember.2.trans rightMember.2.symm)

theorem nodup_targetsOf (nodup : pairs.Nodup) : (targetsOf pairs source).Nodup := by
  refine (nodup.filter _).map_on ?_
  intro left leftMember right rightMember same
  simp only [List.mem_filter, beq_iff_eq] at leftMember rightMember
  exact Prod.ext (leftMember.2.trans rightMember.2.symm) same

theorem dependenciesOf_ofPairs (member : target ∈ nodes) :
    (ofPairs nodes pairs).dependenciesOf target = sourcesOf pairs target := by
  rw [dependenciesOf, ofPairs, Entries.get?_ofList_map, if_pos member, Option.getD_some]

theorem dependentsOf_ofPairs (member : source ∈ nodes) :
    (ofPairs nodes pairs).dependentsOf source = targetsOf pairs source := by
  rw [dependentsOf, ofPairs, Entries.get?_ofList_map, if_pos member, Option.getD_some]

end DependencyGraph

end Flowline
