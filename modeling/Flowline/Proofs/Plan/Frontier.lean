import Flowline.Plan.Frontier
import Flowline.Proofs.Plan.Placement
import Mathlib.Data.Finset.Card
import Mathlib.Data.Finset.Range

/-!
The books of a frontier balance: a node's count is the number of unplaced nodes that it waits for,
and the ready nodes are exactly the unplaced ones that wait for none. Releasing a node for one of
those that hold it keeps the balance, hence placing a node does and the whole run does. It follows
that nodes are placed in greedy order, and that whatever is left over waits for something left over.
-/

namespace Flowline.Frontier

variable {count : Nat} {dependents : Nat → List Nat} {frontier : Frontier}

/-- The nodes that `later` waits for and that are not yet placed. -/
def holders (count : Nat) (dependents : Nat → List Nat) (placed : List Nat) (later : Nat) :
    Finset Nat :=
  (Finset.range count).filter fun node => later ∈ dependents node ∧ node ∉ placed

structure Counted (waiting : List Nat) (dependents : Nat → List Nat) : Prop where
  bounded : ∀ node < waiting.length, ∀ later ∈ dependents node, later < waiting.length
  nodup : ∀ node < waiting.length, (dependents node).Nodup
  counts : ∀ later < waiting.length,
    waiting.getD later 0 = (holders waiting.length dependents [] later).card

/-- `held later` are the nodes that `later` is still to be released by. -/
structure Balanced (count : Nat) (held : Nat → Finset Nat) (frontier : Frontier) : Prop where
  length : frontier.waiting.length = count
  waiting : ∀ later < count, frontier.waiting.getD later 0 = (held later).card
  ready : ∀ node,
    node ∈ frontier.ready ↔ node < count ∧ node ∉ frontier.placed ∧ held node = ∅
  ascending : frontier.ready.Pairwise (· < ·)
  placed : ∀ node ∈ frontier.placed, node < count ∧ held node = ∅
  nodup : frontier.placed.Nodup

@[simp] theorem mem_insertAscending {node other : Nat} {nodes : List Nat} :
    other ∈ insertAscending node nodes ↔ other = node ∨ other ∈ nodes := by
  induction nodes with
  | nil => simp [insertAscending]
  | cons head rest ih =>
      unfold insertAscending
      split
      · simp
      · simp only [List.mem_cons, ih]
        tauto

theorem pairwise_insertAscending {node : Nat} {nodes : List Nat}
    (ascending : nodes.Pairwise (· < ·)) (fresh : node ∉ nodes) :
    (insertAscending node nodes).Pairwise (· < ·) := by
  induction nodes with
  | nil => simp [insertAscending]
  | cons head rest ih =>
      obtain ⟨above, ascending⟩ := List.pairwise_cons.mp ascending
      simp only [List.mem_cons, not_or] at fresh
      unfold insertAscending
      split
      · rename_i below
        have less : node < head := Nat.lt_of_le_of_ne below fresh.1
        refine List.pairwise_cons.mpr ⟨?_, List.pairwise_cons.mpr ⟨above, ascending⟩⟩
        intro other member
        rcases List.mem_cons.mp member with rfl | member
        · exact less
        · exact less.trans (above other member)
      · rename_i above'
        refine List.pairwise_cons.mpr ⟨?_, ih ascending fresh.2⟩
        intro other member
        rcases mem_insertAscending.mp member with rfl | member
        · exact Nat.lt_of_not_le above'
        · exact above other member

@[simp] theorem release_placed (frontier : Frontier) (node : Nat) :
    (frontier.release node).placed = frontier.placed := rfl

theorem release_waiting (frontier : Frontier) (node : Nat) :
    (frontier.release node).waiting =
      frontier.waiting.set node (frontier.waiting.getD node 0 - 1) := rfl

theorem release_ready (frontier : Frontier) (node : Nat) :
    (frontier.release node).ready =
      if frontier.waiting.getD node 0 - 1 = 0 then insertAscending node frontier.ready
      else frontier.ready := rfl

theorem mem_ready_release (frontier : Frontier) (node other : Nat) :
    other ∈ (frontier.release node).ready ↔
      other ∈ frontier.ready ∨ (other = node ∧ frontier.waiting.getD node 0 - 1 = 0) := by
  rw [release_ready]
  split
  · rename_i released
    rw [mem_insertAscending, and_iff_left released, or_comm]
  · rename_i unreleased
    simp only [unreleased, and_false, or_false]

theorem Balanced.release {held : Nat → Finset Nat} {node later : Nat}
    (balanced : Balanced count held frontier) (inside : later < count)
    (holds : node ∈ held later) :
    Balanced count (Function.update held later ((held later).erase node))
      (frontier.release later) := by
  have nonempty : held later ≠ ∅ := Finset.ne_empty_of_mem holds
  have unplaced : later ∉ frontier.placed := fun member =>
    nonempty (balanced.placed later member).2
  have left : frontier.waiting.getD later 0 - 1 = ((held later).erase node).card := by
    rw [balanced.waiting later inside, Finset.card_erase_of_mem holds]
  refine ⟨?_, ?_, ?_, ?_, ?_, balanced.nodup⟩
  · rw [release_waiting, List.length_set, balanced.length]
  · intro other bound
    rw [release_waiting, List.getD_eq_getElem?_getD, List.getElem?_set]
    by_cases same : later = other
    · subst same
      simp [balanced.length, inside, ← left]
    · rw [if_neg same, Function.update_of_ne (Ne.symm same), ← List.getD_eq_getElem?_getD]
      exact balanced.waiting other bound
  · intro other
    rw [mem_ready_release, left, Finset.card_eq_zero, release_placed, balanced.ready]
    by_cases same : other = later
    · subst same
      simp [inside, unplaced, nonempty]
    · simp [same]
  · rw [release_ready]
    split
    · refine pairwise_insertAscending balanced.ascending ?_
      exact fun member => nonempty ((balanced.ready later).mp member).2.2
    · exact balanced.ascending
  · intro other member
    have different : other ≠ later := fun same => unplaced (same ▸ member)
    rw [Function.update_of_ne different]
    exact balanced.placed other member

theorem Balanced.foldl_release {held : Nat → Finset Nat} {node : Nat} {targets : List Nat}
    (balanced : Balanced count held frontier) (nodup : targets.Nodup)
    (inside : ∀ later ∈ targets, later < count)
    (exact_targets : ∀ later, node ∈ held later ↔ later ∈ targets) :
    Balanced count (fun later => (held later).erase node)
      (targets.foldl Frontier.release frontier) := by
  induction targets generalizing held frontier with
  | nil =>
      have untouched : (fun later => (held later).erase node) = held := by
        funext later
        exact Finset.erase_eq_of_notMem fun holds => by
          simpa using (exact_targets later).mp holds
      rw [untouched]
      exact balanced
  | cons first rest ih =>
      obtain ⟨unique, nodup⟩ := List.nodup_cons.mp nodup
      have released := balanced.release (inside first (by simp))
        ((exact_targets first).mpr (by simp))
      have collapse : (fun later => (held later).erase node) = fun later =>
          (Function.update held first ((held first).erase node) later).erase node := by
        funext later
        by_cases same : later = first
        · subst same
          simp
        · rw [Function.update_of_ne same]
      rw [List.foldl_cons, collapse]
      refine ih released nodup (fun later member => inside later (by simp [member])) ?_
      intro later
      by_cases same : later = first
      · subst same
        simp [unique]
      · rw [Function.update_of_ne same, exact_targets]
        simp [same]

def Waits (count : Nat) (dependents : Nat → List Nat) (node later : Nat) : Prop :=
  node < count ∧ later ∈ dependents node

structure Reached (count : Nat) (dependents : Nat → List Nat) (frontier : Frontier) : Prop where
  balanced : Balanced count (holders count dependents frontier.placed) frontier
  greedy : Greedy id (List.range count) (Waits count dependents) frontier.placed

theorem holders_eq_empty_iff {placed : List Nat} {later : Nat} :
    holders count dependents placed later = ∅ ↔
      ∀ node, Waits count dependents node later → node ∈ placed := by
  simp only [holders, Finset.filter_eq_empty_iff, Finset.mem_range, Waits]
  constructor
  · intro none node waits
    by_contra unplaced
    exact none waits.1 ⟨waits.2, unplaced⟩
  · intro all node inside held
    exact held.2 (all node ⟨inside, held.1⟩)

theorem erase_holders (placed : List Nat) (node later : Nat) :
    (holders count dependents placed later).erase node =
      holders count dependents (placed ++ [node]) later := by
  ext other
  simp only [holders, Finset.mem_erase, Finset.mem_filter, Finset.mem_range, List.mem_append,
    List.mem_singleton]
  tauto

theorem Reached.mem_ready (reached : Reached count dependents frontier) (node : Nat) :
    node ∈ frontier.ready ↔
      Available (List.range count) (Waits count dependents) frontier.placed node := by
  rw [reached.balanced.ready, holders_eq_empty_iff, ← List.mem_range]
  constructor
  · intro ⟨member, fresh, supplied⟩
    exact ⟨member, fresh, supplied⟩
  · intro ⟨member, fresh, supplied⟩
    exact ⟨member, fresh, supplied⟩

theorem Reached.firstChoice (reached : Reached count dependents frontier) {node : Nat}
    {rest : List Nat} (ready : frontier.ready = node :: rest) :
    FirstChoice id (List.range count) (Waits count dependents) frontier.placed node := by
  refine ⟨(reached.mem_ready node).mp (by simp [ready]), ?_⟩
  intro other available
  have member := (reached.mem_ready other).mpr available
  have ascending := reached.balanced.ascending
  rw [ready] at member ascending
  rcases List.mem_cons.mp member with rfl | member
  · exact Nat.le_refl _
  · exact ((List.pairwise_cons.mp ascending).1 other member).le

theorem Reached.advance (reached : Reached count dependents frontier) {node : Nat}
    {rest : List Nat} (ready : frontier.ready = node :: rest) :
    Balanced count (holders count dependents frontier.placed)
      { frontier with ready := rest, placed := frontier.placed ++ [node] } := by
  have balanced := reached.balanced
  have ascending := balanced.ascending
  rw [ready] at ascending
  obtain ⟨above, ascending⟩ := List.pairwise_cons.mp ascending
  have isReady := (balanced.ready node).mp (by simp [ready])
  refine ⟨balanced.length, balanced.waiting, ?_, ascending, ?_, ?_⟩
  · intro other
    have known := balanced.ready other
    rw [ready, List.mem_cons] at known
    rw [List.mem_append, List.mem_singleton]
    constructor
    · intro member
      have different : other ≠ node := (above other member).ne'
      obtain ⟨inside, unplaced, unheld⟩ := known.mp (Or.inr member)
      exact ⟨inside, by simp [unplaced, different], unheld⟩
    · intro ⟨inside, unplaced, unheld⟩
      rw [not_or] at unplaced
      exact (known.mpr ⟨inside, unplaced.1, unheld⟩).resolve_left unplaced.2
  · intro other member
    rcases List.mem_append.mp member with member | member
    · exact balanced.placed other member
    · rw [List.mem_singleton.mp member]
      exact ⟨isReady.1, isReady.2.2⟩
  · simpa only [List.concat_eq_append] using balanced.nodup.concat isReady.2.1

@[simp] theorem foldl_release_placed (frontier : Frontier) (targets : List Nat) :
    (targets.foldl release frontier).placed = frontier.placed := by
  induction targets generalizing frontier with
  | nil => rfl
  | cons first rest ih => rw [List.foldl_cons, ih, release_placed]

theorem place_placed (frontier : Frontier) (node : Nat) (rest : List Nat) :
    (place dependents frontier node rest).placed = frontier.placed ++ [node] := by
  rw [place, foldl_release_placed]

theorem Reached.place
    (bounded : ∀ node < count, ∀ later ∈ dependents node, later < count)
    (unique : ∀ node < count, (dependents node).Nodup)
    (reached : Reached count dependents frontier) {node : Nat} {rest : List Nat}
    (ready : frontier.ready = node :: rest) :
    Reached count dependents (place dependents frontier node rest) := by
  obtain ⟨inside, unplaced, _⟩ := (reached.balanced.ready node).mp (by simp [ready])
  refine ⟨?_, ?_⟩
  · have holds : ∀ later,
        node ∈ holders count dependents frontier.placed later ↔ later ∈ dependents node := by
      intro later
      simp [holders, inside, unplaced]
    have released := (reached.advance ready).foldl_release (unique node inside)
      (bounded node inside) holds
    simp only [erase_holders] at released
    rw [place_placed]
    exact released
  · rw [place_placed]
    exact reached.greedy.snoc (reached.firstChoice ready)

theorem Balanced.placed_length_lt {held : Nat → Finset Nat}
    (balanced : Balanced count held frontier) {node : Nat} (inside : node < count)
    (unplaced : node ∉ frontier.placed) : frontier.placed.length < count := by
  have within : node :: frontier.placed ⊆ List.range count := by
    intro other found
    rcases List.mem_cons.mp found with rfl | found
    · exact List.mem_range.mpr inside
    · exact List.mem_range.mpr (balanced.placed other found).1
  have longer := ((List.nodup_cons.mpr ⟨unplaced, balanced.nodup⟩).subperm within).length_le
  rw [List.length_cons, List.length_range] at longer
  exact longer

theorem Balanced.perm_range {held : Nat → Finset Nat} (balanced : Balanced count held frontier)
    (full : ∀ node < count, node ∈ frontier.placed) :
    frontier.placed.Perm (List.range count) := by
  refine (List.perm_ext_iff_of_nodup balanced.nodup List.nodup_range).mpr fun node => ?_
  rw [List.mem_range]
  exact ⟨fun member => (balanced.placed node member).1, full node⟩

theorem Balanced.ready_eq_nil {held : Nat → Finset Nat}
    (balanced : Balanced count held frontier) (full : count ≤ frontier.placed.length) :
    frontier.ready = [] := by
  refine List.eq_nil_iff_forall_not_mem.mpr fun node member => ?_
  obtain ⟨inside, unplaced, _⟩ := (balanced.ready node).mp member
  exact absurd (balanced.placed_length_lt inside unplaced) (Nat.not_lt.mpr full)

theorem Reached.drain
    (bounded : ∀ node < count, ∀ later ∈ dependents node, later < count)
    (unique : ∀ node < count, (dependents node).Nodup) (fuel : Nat)
    (reached : Reached count dependents frontier)
    (enough : count ≤ fuel + frontier.placed.length) :
    Reached count dependents (drain dependents fuel frontier) ∧
      (drain dependents fuel frontier).ready = [] := by
  induction fuel generalizing frontier with
  | zero => exact ⟨reached, reached.balanced.ready_eq_nil (by omega)⟩
  | succ fuel ih =>
      unfold Frontier.drain
      split
      · rename_i empty
        exact ⟨reached, empty⟩
      · rename_i node rest ready
        refine ih (reached.place bounded unique ready) ?_
        rw [place_placed, List.length_append, List.length_singleton]
        omega

theorem Counted.start {waiting : List Nat} (counted : Counted waiting dependents) :
    Reached waiting.length dependents (start waiting) := by
  refine ⟨⟨rfl, counted.counts, ?_, ?_, ?_, ?_⟩, greedy_nil⟩
  · intro node
    simp only [Frontier.start, List.mem_filter, List.mem_range, beq_iff_eq, List.not_mem_nil,
      not_false_eq_true, true_and]
    refine and_congr_right fun inside => ?_
    rw [counted.counts node inside, Finset.card_eq_zero]
  · exact List.pairwise_lt_range.filter _
  · intro node member
    cases member
  · exact List.nodup_nil

theorem Counted.run {waiting : List Nat} (counted : Counted waiting dependents) :
    Reached waiting.length dependents (run waiting dependents) ∧
      (run waiting dependents).ready = [] :=
  counted.start.drain counted.bounded counted.nodup waiting.length (by omega)

/-- When nothing is ready, what is left waits for something that is left. -/
theorem Reached.held_back (reached : Reached count dependents frontier)
    (stuck : frontier.ready = []) {node : Nat} (inside : node < count)
    (unplaced : node ∉ frontier.placed) :
    ∃ source, Waits count dependents source node ∧ source ∉ frontier.placed := by
  by_contra none
  simp only [not_exists, not_and, not_not] at none
  have ready := (reached.mem_ready node).mpr ⟨List.mem_range.mpr inside, unplaced, none⟩
  rw [stuck] at ready
  cases ready

theorem Reached.waiting_pos_iff (reached : Reached count dependents frontier)
    (stuck : frontier.ready = []) {node : Nat} (inside : node < count) :
    0 < frontier.waiting.getD node 0 ↔ node ∉ frontier.placed := by
  rw [reached.balanced.waiting node inside, Finset.card_pos]
  constructor
  · intro held placed
    exact held.ne_empty (reached.balanced.placed node placed).2
  · intro unplaced
    by_contra none
    have ready := (reached.balanced.ready node).mpr
      ⟨inside, unplaced, Finset.not_nonempty_iff_eq_empty.mp none⟩
    rw [stuck] at ready
    cases ready

end Flowline.Frontier
