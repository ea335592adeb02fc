import Flowline.Proofs.Graph.Cycle
import Mathlib.Data.List.Basic

/-!
Orders in which every node comes after those that it waits for. The greedy order takes the available
node of least rank at each place; ranked node by node it comes first among all such orders, so there
is only one.
-/

namespace Flowline

variable {α β : Type}

/-- `node` may follow the nodes of `before`: it is a member that is not among them, and what it
waits for is. -/
structure Available (members : List α) (joins : α → α → Prop) (before : List α) (node : α) :
    Prop where
  member : node ∈ members
  fresh : node ∉ before
  supplied : ∀ source, joins source node → source ∈ before

structure FirstChoice (rank : α → Nat) (members : List α) (joins : α → α → Prop)
    (before : List α) (node : α) : Prop where
  available : Available members joins before node
  least : ∀ other, Available members joins before other → rank node ≤ rank other

def Legal (members : List α) (joins : α → α → Prop) (order : List α) : Prop :=
  ∀ before node after, order = before ++ node :: after → Available members joins before node

/-- Every node is the first choice after those in front of it. -/
def Greedy (rank : α → Nat) (members : List α) (joins : α → α → Prop) (order : List α) : Prop :=
  ∀ before node after, order = before ++ node :: after →
    FirstChoice rank members joins before node

variable {rank : α → Nat} {members : List α} {joins : α → α → Prop} {order other : List α}

theorem Greedy.legal (greedy : Greedy rank members joins order) : Legal members joins order :=
  fun before node after split => (greedy before node after split).available

theorem Legal.induction {motive : α → Prop} (legal : Legal members joins order)
    (step : ∀ node ∈ order, (∀ source, joins source node → motive source) → motive node) :
    ∀ node ∈ order, motive node := by
  have front (before : List α) : ∀ after, order = before ++ after →
      ∀ node ∈ before, motive node := by
    -- From the end, as the last node rests on those in front of it.
    induction before using List.reverseRecOn with
    | nil => simp
    | append_singleton before last ih =>
        intro after split node member
        rw [List.append_assoc, List.singleton_append] at split
        have earlier := ih _ split
        rcases List.mem_append.mp member with early | equality
        · exact earlier node early
        · rw [List.mem_singleton.mp equality]
          refine step last (by simp [split]) fun source joined => earlier source ?_
          exact (legal before last after split).supplied source joined
  exact front order [] (List.append_nil order).symm

theorem greedy_nil : Greedy rank members joins [] := by
  intro before node after split
  cases before <;> contradiction

theorem Greedy.snoc {node : α} (greedy : Greedy rank members joins order)
    (choice : FirstChoice rank members joins order node) :
    Greedy rank members joins (order ++ [node]) := by
  intro before last after split
  rcases List.append_eq_append_iff.mp split with
    ⟨middle, beforeSplit, tail⟩ | ⟨middle, orderSplit, tail⟩
  · cases middle with
    | nil =>
        cases tail
        rw [beforeSplit, List.append_nil]
        exact choice
    | cons => simp at tail
  · cases middle with
    | nil =>
        cases tail
        rw [orderSplit, List.append_nil] at choice
        exact choice
    | cons head rest =>
        cases tail
        exact greedy before last rest orderSplit

theorem Legal.snoc {node : α} (legal : Legal members joins order)
    (available : Available members joins order node) : Legal members joins (order ++ [node]) := by
  -- With all ranks alike, every available node is a first choice.
  have greedy : Greedy (fun _ => 0) members joins order :=
    fun before node after split => ⟨legal before node after split, fun _ _ => le_rfl⟩
  exact (greedy.snoc ⟨available, fun _ _ => le_rfl⟩).legal

theorem Legal.front {after : List α} (legal : Legal members joins (order ++ after)) :
    Legal members joins order := by
  intro first node last split
  refine legal first node (last ++ after) ?_
  rw [split, List.append_assoc, List.cons_append]

/-- Nothing comes in front of what it waits for. -/
theorem Legal.pairwise {source target : α} (legal : Legal members joins order)
    (joined : joins source target) :
    order.Pairwise fun first second => ¬ (first = target ∧ second = source) := by
  rw [List.pairwise_iff_forall_sublist]
  rintro first second within ⟨rfl, rfl⟩
  obtain ⟨before, after, rfl, waiting, later⟩ := List.cons_sublist_iff.mp within
  obtain ⟨front, rest, rfl⟩ := List.append_of_mem waiting
  obtain ⟨between, last, rfl⟩ := List.append_of_mem (List.singleton_sublist.mp later)
  have early : second ∈ front := by
    refine (legal front first (rest ++ (between ++ second :: last)) ?_).supplied second joined
    rw [List.append_assoc, List.cons_append]
  have fresh : second ∉ (front ++ first :: rest) ++ between :=
    (legal _ second last (List.append_assoc _ _ _).symm).fresh
  exact fresh (List.mem_append_left _ (List.mem_append_left _ early))

theorem Legal.subset (legal : Legal members joins order) : order ⊆ members := by
  intro node member
  obtain ⟨before, after, split⟩ := List.append_of_mem member
  exact (legal before node after split).member

theorem Greedy.map {rank' : β → Nat} {members' : List β} {joins' : β → β → Prop} (name : α → β)
    (carries : ∀ before node, before ⊆ members → FirstChoice rank members joins before node →
      FirstChoice rank' members' joins' (before.map name) (name node))
    (greedy : Greedy rank members joins order) :
    Greedy rank' members' joins' (order.map name) := by
  intro before node after split
  obtain ⟨front, back, orderSplit, rfl, backSplit⟩ := List.map_eq_append_iff.mp split
  obtain ⟨inner, rest, rfl, rfl, _⟩ := List.map_eq_cons_iff.mp backSplit
  have within : front ⊆ members :=
    fun _ member => greedy.legal.subset (by simp [orderSplit, member])
  exact carries front inner within (greedy front inner rest orderSplit)

theorem Legal.idxOf_lt [DecidableEq α] (legal : Legal members joins order) {source target : α}
    (member : target ∈ order) (joined : joins source target) :
    source ∈ order ∧ order.idxOf source < order.idxOf target := by
  obtain ⟨before, after, rfl⟩ := List.append_of_mem member
  have available := legal before target after rfl
  have inFront := available.supplied source joined
  refine ⟨by simp [inFront], ?_⟩
  rw [List.idxOf_append_of_mem inFront, List.idxOf_append_of_notMem available.fresh]
  exact Nat.lt_add_right _ (List.idxOf_lt_length_of_mem inFront)

theorem legal_of_forward [DecidableEq α] (within : order ⊆ members) (unique : order.Nodup)
    (forward : ∀ source target, joins source target →
      order.idxOf source < order.idxOf target) :
    Legal members joins order := by
  intro before node after split
  subst split
  have fresh : node ∉ before := fun member =>
    (List.nodup_append.mp unique).2.2 node member node (by simp) rfl
  refine ⟨within (by simp), fresh, fun source joined => ?_⟩
  by_contra absent
  have ahead := forward source node joined
  rw [List.idxOf_append_of_notMem fresh, List.idxOf_append_of_notMem absent,
    List.idxOf_cons_self] at ahead
  omega

theorem Legal.not_behindCycle [DecidableEq α] (legal : Legal members joins order) :
    ∀ node ∈ order, ¬ BehindCycle joins node :=
  not_behindCycle_of_rank order.idxOf fun _ _ member joined => legal.idxOf_lt member joined

private theorem eq_or_lex_after
    (injective : ∀ left ∈ members, ∀ right ∈ members, rank left = rank right → left = right)
    (before : List α) (greedy : Greedy rank members joins (before ++ order))
    (legal : Legal members joins (before ++ other)) (sameLength : order.length = other.length) :
    order = other ∨ List.Lex (· < ·) (order.map rank) (other.map rank) := by
  induction order generalizing before other with
  | nil => exact Or.inl (List.length_eq_zero_iff.mp sameLength.symm).symm
  | cons node rest ih =>
      cases other with
      | nil => simp at sameLength
      | cons rival tail =>
          have choice := greedy before node rest rfl
          have available := legal before rival tail rfl
          rcases Nat.lt_or_eq_of_le (choice.least rival available) with less | equal
          · exact Or.inr (List.Lex.rel less)
          · have same : node = rival :=
              injective node choice.available.member rival available.member equal
            subst same
            have shared : rest = tail ∨ List.Lex (· < ·) (rest.map rank) (tail.map rank) :=
              ih (before ++ [node]) (by simpa using greedy) (by simpa using legal)
                (by simpa using sameLength)
            rcases shared with rfl | less
            · exact Or.inl rfl
            · exact Or.inr (List.Lex.cons less)

/-- Ranked node by node, the greedy order comes before every other legal order. -/
theorem Greedy.eq_or_lex
    (injective : ∀ left ∈ members, ∀ right ∈ members, rank left = rank right → left = right)
    (greedy : Greedy rank members joins order) (legal : Legal members joins other)
    (sameLength : order.length = other.length) :
    order = other ∨ List.Lex (· < ·) (order.map rank) (other.map rank) :=
  eq_or_lex_after injective [] greedy legal sameLength

theorem Greedy.unique
    (injective : ∀ left ∈ members, ∀ right ∈ members, rank left = rank right → left = right)
    (left : Greedy rank members joins order) (right : Greedy rank members joins other)
    (sameLength : order.length = other.length) : order = other := by
  rcases left.eq_or_lex injective right.legal sameLength with same | less
  · exact same
  · rcases right.eq_or_lex injective left.legal sameLength.symm with same | greater
    · exact same.symm
    · exact absurd greater (asymm less)

end Flowline
