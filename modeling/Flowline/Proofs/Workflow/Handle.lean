import Flowline.Workflow.Handle
import Mathlib.Data.List.Infix

/-!
What handles are read back as. A handle that was written for a node names its port again, whatever
the texts of node and port are, and no handle names the empty port.
-/

namespace Flowline.Handle

theorem portChars_append (marker node port : List Char) :
    portChars marker node (node ++ marker ++ port) = port := by
  have found : (node ++ marker).isPrefixOf? (node ++ marker ++ port) = some port := by
    rw [List.isPrefixOf?_eq_some_iff_append_eq]
  rw [portChars, found]

/-- An empty port counts as none. -/
def named? (port : PortId) : Option PortId := if port = "" then none else some port

theorem named?_eq_some_iff {port read : PortId} :
    named? port = some read ↔ port = read ∧ read ≠ "" := by
  unfold named?
  split
  · rename_i unnamed
    subst unnamed
    simp +contextual [eq_comm]
  · rename_i named
    rw [Option.some_inj]
    exact ⟨fun same => ⟨same, same ▸ named⟩, And.left⟩

theorem port?_write (side : Side) (node : NodeId) (port : PortId) :
    port? side node (write side node port) = named? port := by
  have read : portChars side.marker node.toList (write side node port).toList = port.toList := by
    rw [write, String.toList_ofList]
    exact portChars_append _ _ _
  rw [port?, read, named?]
  by_cases unnamed : port = ""
  · rw [if_pos unnamed, unnamed]
    rfl
  · rw [if_neg unnamed]
    split
    · rename_i empty
      exact absurd (String.toList_eq_nil_iff.mp empty) unnamed
    · rw [String.ofList_toList]

theorem port?_ne_empty (side : Side) (node : NodeId) (handle : String) :
    port? side node handle ≠ some "" := by
  unfold port?
  split
  · simp
  · rename_i port nonempty
    simpa using nonempty

@[simp] theorem port?_empty (side : Side) (node : NodeId) : port? side node "" = none := by
  have unmarked : (node.toList ++ side.marker).isPrefixOf? [] = none := by
    cases side <;> cases node.toList <;> rfl
  rw [port?, portChars, String.toList_empty, unmarked]
  cases side <;> rfl

section Markers

/-- How often the marker occurs, with occurrences that overlap counted apart. -/
def occurrences (marker handle : List Char) : Nat := handle.tails.countP marker.isPrefixOf

variable {marker : List Char}

theorem occurrences_cons (c : Char) (rest : List Char) :
    occurrences marker (c :: rest) =
      occurrences marker rest + if marker.isPrefixOf (c :: rest) = true then 1 else 0 := by
  rw [occurrences, List.tails_cons, List.countP_cons]
  rfl

theorem afterLast?_eq_none {handle : List Char} (absent : occurrences marker handle = 0) :
    afterLast? marker handle = none := by
  have nowhere (rest : List Char) (tail : rest ∈ handle.tails) :
      marker.isPrefixOf? rest = none := by
    have unmarked := List.countP_eq_zero.mp absent rest tail
    rw [← List.isSome_isPrefixOf?_eq_isPrefixOf] at unmarked
    exact Option.not_isSome_iff_eq_none.mp unmarked
  induction handle with
  | nil => exact nowhere [] (by simp)
  | cons c rest ih =>
      rw [occurrences_cons] at absent
      have later := ih (by omega) fun part tail => nowhere part (by simp [tail])
      rw [afterLast?, later]
      exact nowhere (c :: rest) (by simp)

variable (nonempty : marker ≠ [])

include nonempty

theorem afterLast?_append (node port : List Char)
    (once : occurrences marker (node ++ marker ++ port) ≤ 1) :
    afterLast? marker (node ++ marker ++ port) = some port := by
  induction node with
  | nil =>
      obtain ⟨c, rest, rfl⟩ := List.exists_cons_of_ne_nil nonempty
      have starts : (c :: rest).isPrefixOf ([] ++ c :: rest ++ port) = true :=
        List.isPrefixOf_iff_prefix.mpr (List.prefix_append _ _)
      simp only [List.nil_append, List.cons_append] at once starts ⊢
      rw [occurrences_cons, if_pos starts] at once
      rw [afterLast?, afterLast?_eq_none (by omega)]
      exact List.isPrefixOf?_eq_some_iff_append_eq.mpr rfl
  | cons c node ih =>
      simp only [List.cons_append] at once ⊢
      rw [occurrences_cons] at once
      -- The rest of the handle has the marker too, and what follows its last one counts.
      rw [afterLast?, ih (by omega)]

/-- With one marker at most, the last marker ends where that behind the node id would. -/
theorem portChars_eq {node handle : List Char} (once : occurrences marker handle ≤ 1) :
    portChars marker node handle = (afterLast? marker handle).getD handle := by
  unfold portChars
  split
  · rename_i port found
    obtain rfl := List.isPrefixOf?_eq_some_iff_append_eq.mp found
    rw [afterLast?_append nonempty node port once, Option.getD_some]
  · rfl

omit nonempty in
theorem port?_eq_of_occurrences {side : Side} {handle : String}
    (once : occurrences side.marker handle.toList ≤ 1) (node other : NodeId) :
    port? side node handle = port? side other handle := by
  have marked : side.marker ≠ [] := by cases side <;> exact List.cons_ne_nil _ _
  rw [port?, port?, portChars_eq marked once, portChars_eq marked once]

end Markers

end Flowline.Handle
