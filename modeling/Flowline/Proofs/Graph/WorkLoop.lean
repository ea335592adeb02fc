import Mathlib.Data.List.Nodup
import Mathlib.Data.List.Perm.Subperm

/-!
Loops that take nodes from a work list. A node that is taken lowers the counts of others, and one
whose count comes down to zero gets into the list. If what is known of the taken nodes and the state
is kept from round to round, no count of zero is ever lowered, no node gets into the list twice, and
the list is empty after as many rounds as there are nodes.
-/

namespace Flowline

/-- What is seen of a loop: a node gets into the work list, it is taken from there, or its count is
lowered, which is `count` until then. -/
inductive Move (α : Type) where
  | enter (node : α)
  | take (node : α)
  | lower (node : α) (count : Nat)
deriving DecidableEq

namespace Move

variable {α : Type}

def entered? : Move α → Option α
  | enter node => some node
  | _ => none

def taken? : Move α → Option α
  | take node => some node
  | _ => none

def entered (moves : List (Move α)) : List α := moves.filterMap entered?

def taken (moves : List (Move α)) : List α := moves.filterMap taken?

@[simp] theorem entered_take (node : α) (rest : List (Move α)) :
    entered (.take node :: rest) = entered rest := rfl

@[simp] theorem taken_take (node : α) (rest : List (Move α)) :
    taken (.take node :: rest) = node :: taken rest := rfl

@[simp] theorem entered_append (front back : List (Move α)) :
    entered (front ++ back) = entered front ++ entered back :=
  List.filterMap_append

@[simp] theorem taken_append (front back : List (Move α)) :
    taken (front ++ back) = taken front ++ taken back :=
  List.filterMap_append

@[simp] theorem entered_map_enter (nodes : List α) : entered (nodes.map .enter) = nodes := by
  simp [entered, List.filterMap_map, Function.comp_def, entered?]

@[simp] theorem taken_map_enter (nodes : List α) : taken (nodes.map .enter) = [] := by
  simp [taken, List.filterMap_map, Function.comp_def, taken?]

end Move

open Move (entered taken)

/-- `advance` takes the first node of the work list and leaves the rest, and `lower` counts a node
down; `targets` are the nodes counted down for the one that is taken. -/
structure WorkLoop (σ α : Type) where
  pending : σ → List α
  advance : σ → α → List α → σ
  targets : α → List α
  count : σ → α → Nat
  lower : σ → α → σ

namespace WorkLoop

variable {σ α : Type}

section Moves

variable (loop : WorkLoop σ α)

def round (state : σ) (node : α) (rest : List α) : σ :=
  (loop.targets node).foldl loop.lower (loop.advance state node rest)

def drain : Nat → σ → σ
  | 0, state => state
  | rounds + 1, state =>
    match loop.pending state with
    | [] => state
    | node :: rest => drain rounds (loop.round state node rest)

def lowering (state : σ) (node : α) : List (Move α) :=
  .lower node (loop.count state node) :: if loop.count state node = 1 then [.enter node] else []

def lowerings : σ → List α → List (Move α)
  | _, [] => []
  | state, node :: rest => loop.lowering state node ++ lowerings (loop.lower state node) rest

/-- What is seen in a number of rounds. -/
def moves : Nat → σ → List (Move α)
  | 0, _ => []
  | rounds + 1, state =>
    match loop.pending state with
    | [] => []
    | node :: rest =>
      .take node :: loop.lowerings (loop.advance state node rest) (loop.targets node) ++
        moves rounds (loop.round state node rest)

/-- What is seen from the beginning, when the nodes in the list at first get in. -/
def history (rounds : Nat) (start : σ) : List (Move α) :=
  (loop.pending start).map .enter ++ loop.moves rounds start

end Moves

/-- What a loop from `start` to `final` does wherever it is stopped. -/
structure Safe (loop : WorkLoop σ α) (nodes : List α) (start final : σ) : Prop where
  lowered : ∀ rounds node count, .lower node count ∈ loop.history rounds start →
    node ∈ nodes ∧ 0 < count
  once : ∀ rounds, (entered (loop.history rounds start)).Nodup
  within : ∀ rounds, taken (loop.history rounds start) ⊆ nodes
  few : ∀ rounds, (taken (loop.history rounds start)).length ≤ nodes.length
  accounts : ∀ rounds, (entered (loop.history rounds start)).Perm
    (taken (loop.history rounds start) ++ loop.pending (loop.drain rounds start))
  ends : ∀ rounds, nodes.length ≤ rounds → loop.drain rounds start = final
  done : loop.pending final = []

/-- What `lower` and `advance` mean for the work list and the counts. -/
structure Lawful (loop : WorkLoop σ α) : Prop where
  advance : ∀ state node rest, loop.pending (loop.advance state node rest) = rest
  lower : ∀ state node, 0 < loop.count state node →
    (loop.pending (loop.lower state node)).Perm
      (loop.pending state ++ if loop.count state node = 1 then [node] else [])
  apart : ∀ state node other, other ≠ node →
    loop.count (loop.lower state node) other = loop.count state other

/-- What is known of the taken nodes and the state carries over to the next round, and suffices for
the counts to be lowered. -/
structure Keeps (loop : WorkLoop σ α) (nodes : List α) (Known : List α → σ → Prop) : Prop where
  unique : ∀ {before state}, Known before state → (before ++ loop.pending state).Nodup
  within : ∀ {before state}, Known before state → before ++ loop.pending state ⊆ nodes
  distinct : ∀ {before state node rest}, Known before state →
    loop.pending state = node :: rest → (loop.targets node).Nodup
  counted : ∀ {before state node rest}, Known before state →
    loop.pending state = node :: rest → ∀ target ∈ loop.targets node,
      target ∈ nodes ∧ 0 < loop.count (loop.advance state node rest) target
  round : ∀ {before state node rest}, Known before state →
    loop.pending state = node :: rest → Known (before ++ [node]) (loop.round state node rest)

variable {loop : WorkLoop σ α} {nodes targets before : List α} {state : σ}
  {Known : List α → σ → Prop}

@[simp] theorem entered_lowering (state : σ) (node : α) :
    entered (loop.lowering state node) = if loop.count state node = 1 then [node] else [] := by
  unfold lowering
  split <;> rfl

@[simp] theorem taken_lowering (state : σ) (node : α) : taken (loop.lowering state node) = [] := by
  unfold lowering
  split <;> rfl

theorem mem_lowering {node other : α} {count : Nat}
    (lowered : .lower other count ∈ loop.lowering state node) :
    other = node ∧ count = loop.count state node := by
  unfold lowering at lowered
  split at lowered <;> simpa using lowered

@[simp] theorem taken_lowerings (state : σ) (targets : List α) :
    taken (loop.lowerings state targets) = [] := by
  induction targets generalizing state with
  | nil => rfl
  | cons first rest ih => rw [lowerings, Move.taken_append, taken_lowering, ih, List.nil_append]

section Lowering

variable (lawful : loop.Lawful) (unique : targets.Nodup)
  (counted : ∀ target ∈ targets, 0 < loop.count state target)

include lawful

/-- Counting one node down leaves the others their counts. -/
theorem Lawful.counted_lower {first : α} {rest : List α} (absent : first ∉ rest)
    (counted : ∀ target ∈ first :: rest, 0 < loop.count state target) :
    ∀ target ∈ rest, 0 < loop.count (loop.lower state first) target := by
  intro target member
  have other : target ≠ first := fun same => absent (same ▸ member)
  rw [lawful.apart state first target other]
  exact counted target (List.mem_cons_of_mem _ member)

include unique counted

theorem Lawful.mem_lowerings {node : α} {count : Nat}
    (lowered : .lower node count ∈ loop.lowerings state targets) :
    node ∈ targets ∧ 0 < count := by
  induction targets generalizing state with
  | nil => cases lowered
  | cons first rest ih =>
      obtain ⟨absent, unique⟩ := List.nodup_cons.mp unique
      rcases List.mem_append.mp lowered with now | later
      · obtain ⟨rfl, rfl⟩ := mem_lowering now
        exact ⟨List.mem_cons_self, counted node List.mem_cons_self⟩
      · exact (ih unique (lawful.counted_lower absent counted) later).imp_left
          (List.mem_cons_of_mem _)

theorem Lawful.pending_foldl_lower :
    (loop.pending (targets.foldl loop.lower state)).Perm
      (loop.pending state ++ entered (loop.lowerings state targets)) := by
  induction targets generalizing state with
  | nil => simp [lowerings, entered]
  | cons first rest ih =>
      obtain ⟨absent, unique⟩ := List.nodup_cons.mp unique
      rw [List.foldl_cons, lowerings, Move.entered_append, entered_lowering, ← List.append_assoc]
      refine (ih unique (lawful.counted_lower absent counted)).trans (List.Perm.append_right _ ?_)
      exact lawful.lower state first (counted first List.mem_cons_self)

end Lowering

section Rounds

variable (lawful : loop.Lawful) (keeps : loop.Keeps nodes Known)

theorem drain_of_done (done : loop.pending state = []) (rounds : Nat) :
    loop.drain rounds state = state := by
  cases rounds with
  | zero => rfl
  | succ rounds => rw [drain, done]

theorem drain_add (first second : Nat) (state : σ) :
    loop.drain (first + second) state = loop.drain second (loop.drain first state) := by
  induction first generalizing state with
  | zero => rw [Nat.zero_add, drain]
  | succ first ih =>
      rw [Nat.succ_add, drain, drain]
      split
      · rename_i done
        exact (drain_of_done done second).symm
      · exact ih _

/-- Every round takes a node, unless the list is empty. -/
theorem length_taken_moves (rounds : Nat) (state : σ) :
    (taken (loop.moves rounds state)).length = rounds ∨
      loop.pending (loop.drain rounds state) = [] := by
  induction rounds generalizing state with
  | zero => exact Or.inl rfl
  | succ rounds ih =>
      rw [moves, drain]
      split
      · rename_i done
        exact Or.inr done
      · rename_i node rest _
        refine (ih (loop.round state node rest)).imp_left fun full => ?_
        rw [List.cons_append, Move.taken_take, Move.taken_append, taken_lowerings, List.nil_append,
          List.length_cons, full]

include keeps

theorem Keeps.known_drain (rounds : Nat) (known : Known before state) :
    Known (before ++ taken (loop.moves rounds state)) (loop.drain rounds state) := by
  induction rounds generalizing before state with
  | zero => rwa [moves, drain, taken, List.filterMap_nil, List.append_nil]
  | succ rounds ih =>
      rw [moves, drain]
      split
      · rwa [taken, List.filterMap_nil, List.append_nil]
      · rename_i node rest next
        rw [List.cons_append, Move.taken_take, Move.taken_append, taken_lowerings, List.nil_append,
          List.append_cons]
        exact ih (keeps.round known next)

include lawful

theorem Keeps.lowered (rounds : Nat) (known : Known before state) {node : α} {count : Nat}
    (lowered : .lower node count ∈ loop.moves rounds state) : node ∈ nodes ∧ 0 < count := by
  induction rounds generalizing before state with
  | zero => cases lowered
  | succ rounds ih =>
      rw [moves] at lowered
      split at lowered
      · cases lowered
      · rename_i first rest next
        have counted := keeps.counted known next
        rcases List.mem_append.mp lowered with now | later
        · have inside := (List.mem_cons.mp now).resolve_left (by simp)
          obtain ⟨target, positive⟩ := lawful.mem_lowerings (keeps.distinct known next)
            (fun target member => (counted target member).2) inside
          exact ⟨(counted node target).1, positive⟩
        · exact ih (keeps.round known next) later

/-- What has got into the list has been taken or is still there. -/
theorem Keeps.accounts (rounds : Nat) (known : Known before state) :
    (loop.pending state ++ entered (loop.moves rounds state)).Perm
      (taken (loop.moves rounds state) ++ loop.pending (loop.drain rounds state)) := by
  induction rounds generalizing before state with
  | zero => simp [moves, drain, entered, taken]
  | succ rounds ih =>
      rw [moves, drain]
      split
      · rename_i done
        simp [done, entered, taken]
      · rename_i node rest next
        have counted := keeps.counted known next
        have grown := lawful.pending_foldl_lower (keeps.distinct known next)
          fun target member => (counted target member).2
        rw [lawful.advance] at grown
        rw [List.cons_append, Move.taken_take, Move.entered_take, Move.taken_append,
          taken_lowerings, List.nil_append, Move.entered_append, next, List.cons_append,
          List.cons_append, ← List.append_assoc]
        refine List.Perm.cons node (.trans ?_ (ih (keeps.round known next)))
        exact grown.symm.append_right _

/-- A loop that keeps its books from the start is safe. -/
theorem Keeps.safe {start final : σ} (known : Known [] start)
    (finished : loop.drain nodes.length start = final) : loop.Safe nodes start final := by
  have taken_history (rounds : Nat) :
      taken (loop.history rounds start) = taken (loop.moves rounds start) := by
    rw [history, Move.taken_append, Move.taken_map_enter, List.nil_append]
  have reached (rounds : Nat) := keeps.known_drain rounds known
  have accounts (rounds : Nat) : (entered (loop.history rounds start)).Perm
      (taken (loop.history rounds start) ++ loop.pending (loop.drain rounds start)) := by
    rw [taken_history, history, Move.entered_append, Move.entered_map_enter]
    exact keeps.accounts lawful rounds known
  have bounded (rounds : Nat) : (taken (loop.history rounds start)).length +
      (loop.pending (loop.drain rounds start)).length ≤ nodes.length := by
    rw [taken_history, ← List.length_append]
    exact ((keeps.unique (reached rounds)).subperm (keeps.within (reached rounds))).length_le
  have done : loop.pending final = [] := by
    rw [← finished]
    rcases loop.length_taken_moves nodes.length start with full | done
    · have left := bounded nodes.length
      rw [taken_history, full] at left
      exact List.length_eq_zero_iff.mp (by omega)
    · exact done
  refine ⟨?_, ?_, ?_, ?_, accounts, ?_, done⟩
  · intro rounds node count lowered
    rcases List.mem_append.mp lowered with first | later
    · simp at first
    · exact keeps.lowered lawful rounds known later
  · intro rounds
    rw [(accounts rounds).nodup_iff, taken_history]
    exact keeps.unique (reached rounds)
  · intro rounds
    rw [taken_history]
    exact List.Subset.trans (List.subset_append_left _ _) (keeps.within (reached rounds))
  · exact fun rounds => Nat.le_of_add_right_le (bounded rounds)
  · intro rounds enough
    obtain ⟨more, rfl⟩ := Nat.exists_eq_add_of_le enough
    rw [drain_add, finished, drain_of_done done]

end Rounds

/-- A loop that is safe for some nodes is safe for a longer list of them. -/
theorem Safe.mono {start final : σ} {others : List α} (safe : loop.Safe nodes start final)
    (within : nodes ⊆ others) (shorter : nodes.length ≤ others.length) :
    loop.Safe others start final where
  lowered := fun rounds node count lowered =>
    (safe.lowered rounds node count lowered).imp_left fun member => within member
  once := safe.once
  within := fun rounds => List.Subset.trans (safe.within rounds) within
  few := fun rounds => Nat.le_trans (safe.few rounds) shorter
  accounts := safe.accounts
  ends := fun rounds enough => safe.ends rounds (Nat.le_trans shorter enough)
  done := safe.done

end WorkLoop

end Flowline
