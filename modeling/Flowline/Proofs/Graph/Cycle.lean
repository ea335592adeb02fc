import Mathlib.Data.Fintype.Card
import Mathlib.Data.Set.Finite.List
import Mathlib.Logic.Relation

/-!
Cycles of a relation. In a finite set in which every vertex has a predecessor, every vertex lies on
a cycle or behind one; a set that is closed under predecessors and along which some rank falls
contains no such vertex.
-/

namespace Flowline

open Relation

variable {α : Type} {joins : α → α → Prop}

def Acyclic (joins : α → α → Prop) : Prop :=
  ∀ vertex, ¬ TransGen joins vertex vertex

/-- The vertex lies on a cycle, or a path leads to it from one that does. -/
def BehindCycle (joins : α → α → Prop) (vertex : α) : Prop :=
  ∃ origin, TransGen joins origin origin ∧ ReflTransGen joins origin vertex

theorem BehindCycle.step {source target : α}
    (behind : BehindCycle joins source) (joined : joins source target) :
    BehindCycle joins target := by
  obtain ⟨origin, cycle, path⟩ := behind
  exact ⟨origin, cycle, path.tail joined⟩

theorem acyclic_iff_not_behindCycle :
    Acyclic joins ↔ ∀ vertex, ¬ BehindCycle joins vertex := by
  constructor
  · intro acyclic vertex behind
    obtain ⟨origin, cycle, _⟩ := behind
    exact acyclic origin cycle
  · intro free vertex cycle
    exact free vertex ⟨vertex, cycle, .refl⟩

theorem BehindCycle.predecessor {vertex : α} (behind : BehindCycle joins vertex) :
    ∃ source, joins source vertex ∧ BehindCycle joins source := by
  obtain ⟨origin, cycle, path⟩ := behind
  obtain ⟨source, reached, joined⟩ := TransGen.tail'_iff.mp (cycle.trans_left path)
  exact ⟨source, joined, origin, cycle, reached⟩

theorem behindCycle_of_preceded {members : List α}
    (preceded : ∀ vertex ∈ members, ∃ source ∈ members, joins source vertex) :
    ∀ vertex ∈ members, BehindCycle joins vertex := by
  intro vertex member
  by_contra free
  let Free := {vertex // vertex ∈ members ∧ ¬ BehindCycle joins vertex}
  have finite : Finite Free :=
    ((List.finite_toSet members).subset
      (fun _ (free : _ ∈ members ∧ _) => free.1)).to_subtype
  have transitive : IsTrans Free fun left right => TransGen joins left.1 right.1 :=
    ⟨fun _ _ _ => TransGen.trans⟩
  have irreflexive : Std.Irrefl fun left right : Free => TransGen joins left.1 right.1 :=
    ⟨fun vertex cycle => vertex.2.2 ⟨vertex.1, cycle, .refl⟩⟩
  have wellFounded := Finite.wellFounded_of_trans_of_irrefl
    fun left right : Free => TransGen joins left.1 right.1
  obtain ⟨first, _, minimal⟩ := wellFounded.has_min Set.univ ⟨⟨vertex, member, free⟩, trivial⟩
  obtain ⟨source, sourceMember, joined⟩ := preceded first.1 first.2.1
  have sourceFree : ¬ BehindCycle joins source :=
    fun behind => first.2.2 (behind.step joined)
  exact minimal ⟨source, sourceMember, sourceFree⟩ trivial (.single joined)

theorem not_behindCycle_of_rank {members : α → Prop} (rank : α → Nat)
    (falls : ∀ source target, members target → joins source target →
      members source ∧ rank source < rank target) :
    ∀ vertex, members vertex → ¬ BehindCycle joins vertex := by
  intro vertex
  induction bound : rank vertex using Nat.strong_induction_on generalizing vertex with
  | h value ih =>
      intro member behind
      obtain ⟨source, joined, sourceBehind⟩ := behind.predecessor
      obtain ⟨sourceMember, smaller⟩ := falls source vertex member joined
      exact ih (rank source) (bound ▸ smaller) source rfl sourceMember sourceBehind

end Flowline
