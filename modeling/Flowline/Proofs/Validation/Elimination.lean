import Flowline.Proofs.Plan.DependencyGraph
import Flowline.Proofs.Plan.Placement
import Flowline.Validation

/-!
Nodes taken away one after another. The count of a node is the number of pairs into it whose source
is still there, and the queue lists the nodes that may go next; taking one away keeps this up. So
what stays at the end lies behind a cycle, in whatever order nodes and pairs are looked at.
-/

namespace Flowline

def Paired (pairs : List (NodeId × NodeId)) (source target : NodeId) : Prop :=
  (source, target) ∈ pairs

namespace Elimination

open DependencyGraph (targetsOf)

variable {nodes taken targets rest : List NodeId} {pairs : List (NodeId × NodeId)}
  {state : Elimination} {node : NodeId}

section Close

theorem get?_close (state : Elimination) (target other : NodeId) :
    Entries.get? (state.close target).opened other =
      (Entries.get? state.opened other).map fun count =>
        if other = target then count - 1 else count := by
  unfold close
  cases found : Entries.get? state.opened target with
  | none =>
      by_cases same : other = target
      · rw [same, found]
        rfl
      · simp [same]
  | some count =>
      rw [Entries.get?_insert]
      by_cases same : other = target
      · subst same
        simp [found]
      · simp [same, Ne.symm same]

/-- The pair that is closed was the last one open. -/
def freed (state : Elimination) (target : NodeId) : Bool :=
  (Entries.get? state.opened target).any fun count => count - 1 == 0

theorem queue_close (state : Elimination) (target : NodeId) :
    (state.close target).queue =
      state.queue ++ if state.freed target then [target] else [] := by
  unfold close freed
  cases Entries.get? state.opened target with
  | none => simp
  | some count => by_cases last : count - 1 = 0 <;> simp [last]

theorem get?_foldl_close (unique : targets.Nodup) (state : Elimination) (other : NodeId) :
    Entries.get? (targets.foldl close state).opened other =
      (Entries.get? state.opened other).map fun count =>
        if other ∈ targets then count - 1 else count := by
  induction targets generalizing state with
  | nil => simp
  | cons first rest ih =>
      obtain ⟨absent, unique⟩ := List.nodup_cons.mp unique
      rw [List.foldl_cons, ih unique, get?_close, Option.map_map]
      congr 1
      funext count
      by_cases same : other = first
      · subst same
        simp [absent]
      · simp [same]

theorem queue_foldl_close (unique : targets.Nodup) (state : Elimination) :
    (targets.foldl close state).queue = state.queue ++ targets.filter state.freed := by
  induction targets generalizing state with
  | nil => simp
  | cons first rest ih =>
      obtain ⟨absent, unique⟩ := List.nodup_cons.mp unique
      have unaffected : ∀ target ∈ rest, (state.close first).freed target = state.freed target := by
        intro target member
        have other : target ≠ first := fun same => absent (same ▸ member)
        simp only [freed, get?_close, if_neg other, Option.map_id']
      rw [List.foldl_cons, ih unique, queue_close, List.filter_congr unaffected, List.filter_cons,
        List.append_assoc]
      split <;> rfl

end Close

/-- The pairs into a node whose source has not been taken away. -/
def openPairs (pairs : List (NodeId × NodeId)) (taken : List NodeId) (target : NodeId) :
    List (NodeId × NodeId) :=
  pairs.filter fun pair => pair.2 == target && !taken.contains pair.1

theorem openPairs_eq_nil_iff {target : NodeId} :
    openPairs pairs taken target = [] ↔ ∀ source, Paired pairs source target → source ∈ taken := by
  simp only [openPairs, List.filter_eq_nil_iff, Prod.forall, Paired]
  constructor
  · intro closed source paired
    simpa using closed source target paired
  · intro supplied source other paired
    by_cases same : other = target
    · subst same
      simp [supplied source paired]
    · simp [same]

theorem openPairs_snoc (distinct : pairs.Nodup) (node target : NodeId) :
    openPairs pairs (taken ++ [node]) target =
      (openPairs pairs taken target).erase (node, target) := by
  rw [openPairs, openPairs, (distinct.filter _).erase_eq_filter, List.filter_filter]
  refine List.filter_congr fun pair _ => ?_
  obtain ⟨source, other⟩ := pair
  by_cases same : other = target
  · subst same
    by_cases head : source = node <;> simp [head]
  · simp [beq_false_of_ne same]

theorem mem_openPairs_of_targetsOf (fresh : node ∉ taken) {target : NodeId} :
    (node, target) ∈ openPairs pairs taken target ↔ target ∈ targetsOf pairs node := by
  rw [DependencyGraph.mem_targetsOf, openPairs, List.mem_filter]
  simp [fresh]

/-- Nodes and pairs are listed once, and the pairs join listed nodes. -/
structure Listed (nodes : List NodeId) (pairs : List (NodeId × NodeId)) : Prop where
  unique : nodes.Nodup
  distinct : pairs.Nodup
  closed : ∀ source target, Paired pairs source target → source ∈ nodes ∧ target ∈ nodes

structure Balanced (nodes : List NodeId) (pairs : List (NodeId × NodeId)) (taken : List NodeId)
    (state : Elimination) : Prop where
  opened : ∀ node, Entries.get? state.opened node =
    if node ∈ nodes then some (openPairs pairs taken node).length else none
  queue : ∀ node, node ∈ state.queue ↔ Available nodes (Paired pairs) taken node
  unique : (taken ++ state.queue).Nodup
  legal : Legal nodes (Paired pairs) taken

namespace Balanced

/-- What a node in the queue leads to has neither been taken away nor got into the queue. -/
theorem target_fresh (balanced : Balanced nodes pairs taken state) (queued : node ∈ state.queue)
    {target : NodeId} (joined : target ∈ targetsOf pairs node) :
    target ∉ taken ++ state.queue := by
  have fresh := ((balanced.queue node).mp queued).fresh
  have paired : Paired pairs node target := DependencyGraph.mem_targetsOf.mp joined
  intro member
  rcases List.mem_append.mp member with gone | next
  · exact fresh (balanced.legal.idxOf_lt gone paired).1
  · exact fresh (((balanced.queue target).mp next).supplied node paired)

theorem freed_iff (listed : Listed nodes pairs) (balanced : Balanced nodes pairs taken state)
    (fresh : node ∉ taken) {target : NodeId} (joined : target ∈ targetsOf pairs node) :
    state.freed target = true ↔
      ∀ source, Paired pairs source target → source ∈ taken ++ [node] := by
  have paired : Paired pairs node target := DependencyGraph.mem_targetsOf.mp joined
  rw [freed, balanced.opened, if_pos (listed.closed node target paired).2, Option.any_some,
    beq_iff_eq, ← openPairs_eq_nil_iff, openPairs_snoc listed.distinct,
    ← List.length_eq_zero_iff,
    List.length_erase_of_mem ((mem_openPairs_of_targetsOf fresh).mpr joined)]

theorem opened_takeAway (listed : Listed nodes pairs)
    (balanced : Balanced nodes pairs taken state) (fresh : node ∉ taken) (other : NodeId) :
    Entries.get? (state.takeAway pairs node rest).opened other =
      if other ∈ nodes then some (openPairs pairs (taken ++ [node]) other).length else none := by
  have unique : (targetsOf pairs node).Nodup := DependencyGraph.nodup_targetsOf listed.distinct
  refine (get?_foldl_close unique { state with queue := rest } other).trans ?_
  rw [balanced.opened, openPairs_snoc listed.distinct, List.length_erase]
  simp only [mem_openPairs_of_targetsOf fresh]
  by_cases member : other ∈ nodes
  · rw [if_pos member, if_pos member, Option.map_some]
  · rw [if_neg member, if_neg member, Option.map_none]

theorem available_snoc_iff (listed : Listed nodes pairs)
    (balanced : Balanced nodes pairs taken state) (next : state.queue = node :: rest)
    (other : NodeId) :
    Available nodes (Paired pairs) (taken ++ [node]) other ↔
      other ∈ rest ∨ other ∈ (targetsOf pairs node).filter state.freed := by
  have queued : node ∈ state.queue := by simp [next]
  have fresh := ((balanced.queue node).mp queued).fresh
  have unique := balanced.unique
  rw [next] at unique
  rw [List.mem_filter]
  constructor
  · intro available
    have apart : other ∉ taken ∧ other ≠ node := by simpa using available.fresh
    by_cases joined : other ∈ targetsOf pairs node
    · exact Or.inr ⟨joined, (balanced.freed_iff listed fresh joined).mpr available.supplied⟩
    · -- Nothing leads to it from the node, so it was free before.
      have before : Available nodes (Paired pairs) taken other := by
        refine ⟨available.member, apart.1, fun source paired => ?_⟩
        rcases List.mem_append.mp (available.supplied source paired) with gone | last
        · exact gone
        · rw [List.mem_singleton.mp last] at paired
          exact absurd (DependencyGraph.mem_targetsOf.mpr paired) joined
      have waiting := (balanced.queue other).mpr before
      rw [next] at waiting
      exact Or.inl ((List.mem_cons.mp waiting).resolve_left apart.2)
  · rintro (waiting | ⟨joined, free⟩)
    · have before := (balanced.queue other).mp (by simp [next, waiting])
      have apart : other ≠ node := by
        rintro rfl
        exact (List.nodup_cons.mp unique.of_append_right).1 waiting
      exact ⟨before.member, by simp [before.fresh, apart],
        fun source paired => List.mem_append_left _ (before.supplied source paired)⟩
    · have new := balanced.target_fresh queued joined
      have paired : Paired pairs node other := DependencyGraph.mem_targetsOf.mp joined
      refine ⟨(listed.closed node other paired).2, fun member => new ?_,
        (balanced.freed_iff listed fresh joined).mp free⟩
      rcases List.mem_append.mp member with gone | last
      · exact List.mem_append_left _ gone
      · rw [List.mem_singleton.mp last]
        exact List.mem_append_right _ queued

theorem takeAway (listed : Listed nodes pairs) (balanced : Balanced nodes pairs taken state)
    (next : state.queue = node :: rest) :
    Balanced nodes pairs (taken ++ [node]) (state.takeAway pairs node rest) := by
  have queued : node ∈ state.queue := by simp [next]
  have available := (balanced.queue node).mp queued
  have targetsUnique : (targetsOf pairs node).Nodup :=
    DependencyGraph.nodup_targetsOf listed.distinct
  have queue : (state.takeAway pairs node rest).queue =
      rest ++ (targetsOf pairs node).filter state.freed :=
    queue_foldl_close targetsUnique { state with queue := rest }
  refine ⟨balanced.opened_takeAway listed available.fresh, ?_, ?_,
    balanced.legal.snoc available⟩
  · intro other
    rw [queue, List.mem_append, balanced.available_snoc_iff listed next]
  · have unique := balanced.unique
    rw [next, List.append_cons] at unique
    rw [queue, ← List.append_assoc]
    refine unique.append (targetsUnique.filter _) fun other old new => ?_
    refine balanced.target_fresh queued (List.mem_filter.mp new).1 ?_
    rw [next, List.append_cons]
    exact old

theorem start (listed : Listed nodes pairs) :
    Balanced nodes pairs [] (start nodes pairs) := by
  have counted (node : NodeId) :
      (pairs.filter fun pair => pair.2 == node) = openPairs pairs [] node := by
    simp [openPairs]
  refine ⟨?_, ?_, ?_, ?_⟩
  · intro node
    rw [Elimination.start, Entries.get?_ofList_map, counted]
  · intro node
    simp only [Elimination.start, List.mem_filter, beq_iff_eq, counted, List.length_eq_zero_iff,
      openPairs_eq_nil_iff]
    exact ⟨fun ⟨member, supplied⟩ => ⟨member, List.not_mem_nil, supplied⟩,
      fun ⟨member, _, supplied⟩ => ⟨member, supplied⟩⟩
  · exact listed.unique.filter _
  · intro before node after split
    cases before <;> contradiction

theorem length_le (balanced : Balanced nodes pairs taken state) :
    taken.length + state.queue.length ≤ nodes.length := by
  have within : taken ++ state.queue ⊆ nodes := by
    intro node member
    rcases List.mem_append.mp member with gone | next
    · exact balanced.legal.subset gone
    · exact ((balanced.queue node).mp next).member
  have bounded := (balanced.unique.subperm within).length_le
  rwa [List.length_append] at bounded

theorem drain (listed : Listed nodes pairs) (fuel : Nat)
    (balanced : Balanced nodes pairs taken state) (enough : nodes.length ≤ fuel + taken.length) :
    (drain pairs fuel state).queue = [] ∧
      ∃ gone, Balanced nodes pairs gone (drain pairs fuel state) := by
  induction fuel generalizing state taken with
  | zero =>
      have bounded := balanced.length_le
      exact ⟨List.length_eq_zero_iff.mp (by rw [Elimination.drain]; omega), taken, balanced⟩
  | succ fuel ih =>
      rw [Elimination.drain]
      split
      · rename_i empty
        exact ⟨empty, taken, balanced⟩
      · rename_i node rest next
        refine ih (balanced.takeAway listed next) ?_
        rw [List.length_append, List.length_singleton]
        omega

/-- With the queue empty, what is left is kept back by something that is left. -/
theorem held_back (balanced : Balanced nodes pairs taken state) (empty : state.queue = [])
    (member : node ∈ nodes) (fresh : node ∉ taken) :
    ∃ source, Paired pairs source node ∧ source ∉ taken := by
  by_contra none
  simp only [not_exists, not_and, not_not] at none
  have waiting := (balanced.queue node).mpr ⟨member, fresh, none⟩
  rw [empty] at waiting
  cases waiting

theorem remains_iff (balanced : Balanced nodes pairs taken state) (empty : state.queue = []) :
    state.remains node = true ↔ node ∈ nodes ∧ node ∉ taken := by
  rw [remains, balanced.opened]
  split
  · rename_i member
    rw [Option.any_some, decide_eq_true_iff, List.length_pos_iff, ne_eq, openPairs_eq_nil_iff,
      and_iff_right member]
    constructor
    · exact fun held gone => held fun source paired => (balanced.legal.idxOf_lt gone paired).1
    · intro fresh supplied
      obtain ⟨source, paired, left⟩ := balanced.held_back empty member fresh
      exact left (supplied source paired)
  · rename_i absent
    exact iff_of_false (by simp) fun found => absent found.1

end Balanced

/-- What is not taken away in the end is what lies on a cycle or behind one. -/
theorem remains_run_iff (listed : Listed nodes pairs) :
    (run nodes pairs).remains node = true ↔ BehindCycle (Paired pairs) node := by
  obtain ⟨empty, taken, balanced⟩ := (Balanced.start listed).drain listed nodes.length (by simp)
  rw [run, balanced.remains_iff empty]
  constructor
  · intro stays
    have left : node ∈ nodes.filter fun node => !taken.contains node := by simpa using stays
    refine behindCycle_of_preceded (fun target member => ?_) node left
    obtain ⟨inside, fresh⟩ : target ∈ nodes ∧ target ∉ taken := by simpa using member
    obtain ⟨source, paired, left⟩ := balanced.held_back empty inside fresh
    exact ⟨source, by simp [(listed.closed source target paired).1, left], paired⟩
  · intro behind
    obtain ⟨source, paired, _⟩ := behind.predecessor
    exact ⟨(listed.closed source node paired).2,
      fun gone => balanced.legal.not_behindCycle node gone behind⟩

end Elimination

end Flowline
