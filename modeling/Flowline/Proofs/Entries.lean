import Flowline.Entries
import Mathlib.Data.List.Induction
import Mathlib.Data.List.Nodup
import Mathlib.Data.String.Basic

/-!
What is found in tables that are built entry by entry. Whatever is entered, the keys stay in
ascending order, so each value is counted under one key.
-/

namespace Flowline.Entries

universe u v w

variable {α : Type u} {β : Type v}

theorem has_eq_false_iff {table : Entries α} {key : String} :
    has table key = false ↔ get? table key = none := by
  unfold has
  cases get? table key <;> simp

theorem ofList_concat (pairs : List (String × α)) (pair : String × α) :
    ofList (pairs ++ [pair]) = insert (ofList pairs) pair.1 pair.2 :=
  List.foldl_concat _ _ _ _

/-- Of several values under one key, the last one stays. -/
theorem get?_ofList (pairs : List (String × α)) (key : String) :
    get? (ofList pairs) key =
      ((pairs.filter fun pair => pair.1 == key).getLast?).map Prod.snd := by
  induction pairs using List.reverseRecOn with
  | nil => rfl
  | append_singleton pairs pair ih =>
      rw [ofList_concat, get?_insert, List.filter_append]
      by_cases same : pair.1 = key
      · simp [same]
      · have skipped : [pair].filter (fun pair => pair.1 == key) = [] := by simp [same]
        rw [if_neg same, skipped, List.append_nil]
        exact ih

theorem get?_ofList_of_mem {pairs : List (String × α)} {key : String} {value : α}
    (member : (key, value) ∈ pairs) (agree : ∀ other, (key, other) ∈ pairs → other = value) :
    get? (ofList pairs) key = some value := by
  have kept : (key, value) ∈ pairs.filter fun pair => pair.1 == key :=
    List.mem_filter.mpr ⟨member, beq_self_eq_true key⟩
  obtain ⟨last, found⟩ :=
    Option.isSome_iff_exists.mp (List.getLast?_isSome.mpr (List.ne_nil_of_mem kept))
  obtain ⟨listed, same⟩ := List.mem_filter.mp (List.mem_of_getLast? found)
  obtain rfl := eq_of_beq same
  rw [get?_ofList, found]
  exact congrArg some (agree last.2 listed)

theorem get?_ofList_of_nodup {pairs : List (String × α)} {key : String} {value : α}
    (unique : (pairs.map Prod.fst).Nodup) (member : (key, value) ∈ pairs) :
    get? (ofList pairs) key = some value := by
  refine get?_ofList_of_mem member fun other found => ?_
  exact congrArg Prod.snd (List.inj_on_of_nodup_map unique found member rfl)

theorem mem_of_get?_ofList {pairs : List (String × α)} {key : String} {value : α}
    (found : get? (ofList pairs) key = some value) : (key, value) ∈ pairs := by
  rw [get?_ofList, Option.map_eq_some_iff] at found
  obtain ⟨pair, last, rfl⟩ := found
  obtain ⟨member, same⟩ := List.mem_filter.mp (List.mem_of_getLast? last)
  rw [← eq_of_beq same]
  exact member

theorem get?_ofList_eq_none {pairs : List (String × α)} {key : String}
    (absent : ∀ pair ∈ pairs, pair.1 ≠ key) : get? (ofList pairs) key = none := by
  have empty : pairs.filter (fun pair => pair.1 == key) = [] :=
    List.filter_eq_nil_iff.mpr fun pair member same => absent pair member (eq_of_beq same)
  rw [get?_ofList, empty]
  rfl

theorem get?_ofList_map (keys : List String) (f : String → α) (key : String) :
    get? (ofList (keys.map fun key => (key, f key))) key =
      if key ∈ keys then some (f key) else none := by
  split
  · rename_i member
    refine get?_ofList_of_mem (List.mem_map.mpr ⟨key, member, rfl⟩) ?_
    intro other found
    obtain ⟨_, _, equality⟩ := List.mem_map.mp found
    cases equality
    rfl
  · rename_i absent
    refine get?_ofList_eq_none ?_
    intro pair found same
    obtain ⟨k, member, rfl⟩ := List.mem_map.mp found
    exact absent (same ▸ member)

theorem get?_push (table : Entries (List α)) (key : String) (item : α) (other : String) :
    (get? (push table key item) other).getD [] =
      (get? table other).getD [] ++ if key = other then [item] else [] := by
  rw [push, get?_insert]
  split
  · rename_i same
    subst same
    rfl
  · rw [List.append_nil]

/-- Pushing items one by one groups them by their key and keeps their order. -/
theorem get?_foldl_push (key : β → String) (item : β → α) (items : List β)
    (table : Entries (List α)) (wanted : String) :
    (get? (items.foldl (fun table each => push table (key each) (item each)) table)
      wanted).getD [] =
      (get? table wanted).getD [] ++ (items.filter fun each => key each == wanted).map item := by
  induction items generalizing table with
  | nil => rw [List.foldl_nil, List.filter_nil, List.map_nil, List.append_nil]
  | cons first rest ih =>
      rw [List.foldl_cons, ih, get?_push, List.append_assoc]
      by_cases same : key first = wanted
      · simp [same]
      · simp [same]

theorem mem_insert {table : Entries α} {key : String} {value : α} {entry : String × α}
    (member : entry ∈ insert table key value) : entry = (key, value) ∨ entry ∈ table := by
  induction table with
  | nil => exact Or.inl (List.mem_singleton.mp member)
  | cons first rest ih =>
      unfold insert at member
      split at member
      · exact List.mem_cons.mp member
      · split at member
        · exact (List.mem_cons.mp member).imp_right (List.mem_cons_of_mem _)
        · rcases List.mem_cons.mp member with rfl | later
          · exact Or.inr List.mem_cons_self
          · exact (ih later).imp_right (List.mem_cons_of_mem _)

theorem Sorted.insert {table : Entries α} (sorted : Sorted table) (key : String) (value : α) :
    Sorted (insert table key value) := by
  induction table with
  | nil => exact List.pairwise_singleton _ _
  | cons first rest ih =>
      obtain ⟨smallest, sortedRest⟩ := List.pairwise_cons.mp sorted
      unfold Entries.insert
      split
      · rename_i before
        refine List.pairwise_cons.mpr ⟨?_, sorted⟩
        intro entry member
        rcases List.mem_cons.mp member with rfl | later
        · exact before
        · exact lt_trans before (smallest entry later)
      · rename_i notBefore
        split
        · rename_i same
          exact List.pairwise_cons.mpr ⟨same ▸ smallest, sortedRest⟩
        · rename_i apart
          refine List.pairwise_cons.mpr ⟨?_, ih sortedRest⟩
          intro entry member
          rcases mem_insert member with rfl | later
          · exact lt_of_le_of_ne (not_lt.mp notBefore) apart
          · exact smallest entry later

theorem sorted_ofList (pairs : List (String × α)) : Sorted (ofList pairs) := by
  induction pairs using List.reverseRecOn with
  | nil => exact List.Pairwise.nil
  | append_singleton pairs pair ih =>
      rw [ofList_concat]
      exact Sorted.insert ih _ _

theorem Sorted.nodup_keys {table : Entries α} (sorted : Sorted table) : (keys table).Nodup :=
  List.pairwise_map.mpr (List.Pairwise.imp (fun before => ne_of_lt before) sorted)

theorem get?_eq_some_iff {table : Entries α} (unique : (keys table).Nodup) {key : String}
    {value : α} : get? table key = some value ↔ (key, value) ∈ table := by
  induction table with
  | nil => simp
  | cons first rest ih =>
      obtain ⟨k, other⟩ := first
      obtain ⟨absent, unique⟩ := List.nodup_cons.mp unique
      rw [get?, List.mem_cons]
      by_cases same : k = key
      · subst same
        have outside : (k, value) ∉ rest := fun member =>
          absent (List.mem_map.mpr ⟨_, member, rfl⟩)
        simp [outside, eq_comm]
      · have apart : ¬ (key, value) = (k, other) := fun equal => same (congrArg Prod.fst equal).symm
        rw [if_neg same, ih unique, or_iff_right apart]

theorem get?_eq_none_iff {table : Entries α} {key : String} :
    get? table key = none ↔ key ∉ keys table := by
  induction table with
  | nil => simp [keys]
  | cons first rest ih =>
      rw [get?, keys, List.map_cons, List.mem_cons, not_or]
      split
      · rename_i same
        exact iff_of_false (Option.some_ne_none _) fun apart => apart.1 same.symm
      · rename_i apart
        rw [ih, and_iff_right (Ne.symm apart)]
        rfl

/-- A table in order is told by what is found in it. -/
theorem Sorted.eq_of_get? {table other : Entries α} (sorted : Sorted table)
    (otherSorted : Sorted other) (same : ∀ key, get? table key = get? other key) :
    table = other := by
  have entries : ∀ entry, entry ∈ table ↔ entry ∈ other := by
    intro entry
    rw [← Prod.mk.eta (p := entry), ← get?_eq_some_iff sorted.nodup_keys,
      ← get?_eq_some_iff otherSorted.nodup_keys, same]
  have perm : table.Perm other :=
    (List.perm_ext_iff_of_nodup (List.Nodup.of_map _ sorted.nodup_keys)
      (List.Nodup.of_map _ otherSorted.nodup_keys)).mpr entries
  exact perm.eq_of_pairwise (fun _ _ _ _ before after => absurd before (lt_asymm after)) sorted
    otherSorted

theorem has_iff {table : Entries α} {key : String} : has table key = true ↔ key ∈ keys table := by
  rw [← not_iff_not, Bool.not_eq_true, has_eq_false_iff, get?_eq_none_iff]

theorem mem_keys_ofList {pairs : List (String × α)} {key : String} :
    key ∈ keys (ofList pairs) ↔ key ∈ pairs.map Prod.fst := by
  rw [← not_iff_not, ← get?_eq_none_iff, get?_ofList, Option.map_eq_none_iff,
    List.getLast?_eq_none_iff, List.filter_eq_nil_iff]
  simp only [List.mem_map, not_exists, not_and, beq_iff_eq]

theorem keys_ofList_perm {pairs : List (String × α)} (unique : (pairs.map Prod.fst).Nodup) :
    (keys (ofList pairs)).Perm (pairs.map Prod.fst) :=
  (List.perm_ext_iff_of_nodup (sorted_ofList pairs).nodup_keys unique).mpr fun _ => mem_keys_ofList

/-- Pushing an item adds it to those that the table holds, and nothing else. -/
theorem flatten_values_push {table : Entries (List α)} (sorted : Sorted table) (key : String)
    (item : α) :
    (values (push table key item)).flatten.Perm ((values table).flatten ++ [item]) := by
  induction table with
  | nil => exact List.Perm.refl _
  | cons first rest ih =>
      obtain ⟨k, items⟩ := first
      obtain ⟨smallest, sortedRest⟩ := List.pairwise_cons.mp sorted
      unfold push Entries.insert
      split
      · rename_i before
        have absent : get? ((k, items) :: rest) key = none := by
          rw [get?_eq_none_iff, keys, List.map_cons, List.mem_cons, not_or]
          refine ⟨before.ne, fun member => ?_⟩
          obtain ⟨entry, later, rfl⟩ := List.mem_map.mp member
          exact lt_asymm before (smallest entry later)
        rw [absent]
        exact (List.perm_append_singleton item _).symm
      · split
        · rename_i same
          rw [get?, if_pos same]
          simp only [values, List.map_cons, List.flatten_cons, Option.getD_some, List.append_assoc]
          exact List.Perm.append_left _ List.perm_append_comm
        · rename_i apart
          rw [get?, if_neg apart]
          simp only [values, List.map_cons, List.flatten_cons, List.append_assoc] at ih ⊢
          exact (ih sortedRest).append_left _

theorem sorted_foldl_push (key : β → String) (item : β → α) (items : List β)
    {table : Entries (List α)} (sorted : Sorted table) :
    Sorted (items.foldl (fun table each => push table (key each) (item each)) table) := by
  induction items generalizing table with
  | nil => exact sorted
  | cons first rest ih => exact ih (sorted.insert _ _)

/-- However the items are grouped, each of them is there once. -/
theorem flatten_values_foldl_push (key : β → String) (item : β → α) (items : List β)
    {table : Entries (List α)} (sorted : Sorted table) :
    (values (items.foldl (fun table each => push table (key each) (item each)) table)).flatten.Perm
      ((values table).flatten ++ items.map item) := by
  induction items generalizing table with
  | nil => rw [List.foldl_nil, List.map_nil, List.append_nil]
  | cons first rest ih =>
      rw [List.foldl_cons, List.map_cons, List.append_cons]
      refine (ih (sorted.insert _ _)).trans (List.Perm.append_right _ ?_)
      exact flatten_values_push sorted _ _

section Rename

variable {key : String → String} (value : α → β) {table : Entries α}

/-- The table with its entries under other keys. -/
def rename (key : String → String) (value : α → β) (table : Entries α) : Entries β :=
  ofList (table.map fun entry => (key entry.1, value entry.2))

theorem sorted_rename (key : String → String) (table : Entries α) :
    Sorted (rename key value table) :=
  sorted_ofList _

theorem get?_rename_of_foreign {wanted : String} (foreign : ∀ name, key name ≠ wanted) :
    get? (rename key value table) wanted = none := by
  refine get?_ofList_eq_none fun pair member => ?_
  obtain ⟨entry, _, rfl⟩ := List.mem_map.mp member
  exact foreign entry.1

variable (injective : Function.Injective key)

include injective

theorem get?_rename (sorted : Sorted table) (wanted : String) :
    get? (rename key value table) (key wanted) = (get? table wanted).map value := by
  cases found : get? table wanted with
  | none =>
      refine get?_ofList_eq_none fun pair member same => ?_
      obtain ⟨entry, listed, rfl⟩ := List.mem_map.mp member
      rw [← injective same] at found
      exact get?_eq_none_iff.mp found (List.mem_map_of_mem listed)
  | some item =>
      have listed := (get?_eq_some_iff sorted.nodup_keys).mp found
      have unique : ((keys table).map key).Nodup := sorted.nodup_keys.map injective
      rw [keys, List.map_map] at unique
      refine get?_ofList_of_nodup ?_ (List.mem_map.mpr ⟨_, listed, rfl⟩)
      rw [List.map_map]
      exact unique

theorem getD_get?_rename {table : Entries (List α)} (sorted : Sorted table) (wanted : String) :
    (get? (rename key (List.map value) table) (key wanted)).getD [] =
      ((get? table wanted).getD []).map value := by
  have found := get?_rename (List.map value) injective sorted wanted
  rw [found]
  cases get? table wanted <;> rfl

theorem eq_rename (sorted : Sorted table) {other : Entries β} (otherSorted : Sorted other)
    (renamed : ∀ wanted, get? other (key wanted) = (get? table wanted).map value)
    (foreign : ∀ wanted, (∀ name, key name ≠ wanted) → get? other wanted = none) :
    other = rename key value table := by
  refine otherSorted.eq_of_get? (sorted_rename _ _ _) fun wanted => ?_
  by_cases reached : ∃ name, key name = wanted
  · obtain ⟨name, rfl⟩ := reached
    rw [renamed]
    exact (get?_rename value injective sorted name).symm
  · have apart : ∀ name, key name ≠ wanted := not_exists.mp reached
    rw [foreign wanted apart, get?_rename_of_foreign value apart]

theorem rename_insert (sorted : Sorted table) (name : String) (item : α) :
    rename key value (Entries.insert table name item) =
      Entries.insert (rename key value table) (key name) (value item) := by
  refine (eq_rename value injective (sorted.insert name item) ((sorted_rename _ _ _).insert _ _)
    (fun wanted => ?_) fun wanted apart => ?_).symm
  · have found := get?_rename value injective sorted wanted
    rw [get?_insert, get?_insert, found]
    simp only [injective.eq_iff]
    split <;> rfl
  · rw [get?_insert, if_neg (apart name), get?_rename_of_foreign value apart]

theorem rename_ofList (pairs : List (String × α)) :
    rename key value (ofList pairs) =
      ofList (pairs.map fun pair => (key pair.1, value pair.2)) := by
  induction pairs using List.reverseRecOn with
  | nil => rfl
  | append_singleton pairs pair ih =>
      rw [ofList_concat, rename_insert value injective (sorted_ofList _), ih, List.map_append,
        List.map_singleton, ofList_concat]

theorem rename_foldl_push {γ : Type w} (name : γ → String) (item : γ → α) (items : List γ)
    {table : Entries (List α)} (sorted : Sorted table) :
    rename key (List.map value)
        (items.foldl (fun table each => push table (name each) (item each)) table) =
      items.foldl (fun table each => push table (key (name each)) (value (item each)))
        (rename key (List.map value) table) := by
  induction items generalizing table with
  | nil => rfl
  | cons first rest ih =>
      have pushed : rename key (List.map value) (push table (name first) (item first)) =
          push (rename key (List.map value) table) (key (name first)) (value (item first)) := by
        have found := getD_get?_rename value injective sorted (name first)
        rw [push, rename_insert (List.map value) injective sorted, push, found, List.map_append,
          List.map_singleton]
      have sortedNext : Sorted (push table (name first) (item first)) := sorted.insert _ _
      rw [List.foldl_cons, List.foldl_cons, ih sortedNext, pushed]

end Rename

section MapValues

variable (f : α → β) (table : Entries α) (key : String)

theorem get?_mapValues : get? (mapValues f table) key = (get? table key).map f := by
  induction table with
  | nil => rfl
  | cons first rest ih =>
      rw [mapValues, List.map_cons, get?, get?]
      split
      · rfl
      · exact ih

theorem mapValues_insert (value : α) :
    mapValues f (Entries.insert table key value) =
      Entries.insert (mapValues f table) key (f value) := by
  induction table with
  | nil => rfl
  | cons first rest ih =>
      simp only [mapValues, Entries.insert, List.map_cons] at ih ⊢
      split
      · rfl
      · split
        · rfl
        · rw [List.map_cons, ih]

end MapValues

/-- A list of distinct keys counts the values with a property if it lists just their keys. -/
theorem length_filter_values {table : Entries α} (sorted : Sorted table) {property : α → Bool}
    {listed : List String} (distinct : listed.Nodup)
    (lists : ∀ key, key ∈ listed ↔ ∃ value, get? table key = some value ∧ property value = true) :
    ((values table).filter property).length = listed.length := by
  have unique := sorted.nodup_keys
  have counted : ((values table).filter property).length =
      ((table.filter fun entry => property entry.2).map Prod.fst).length := by
    rw [values, List.filter_map, List.length_map, List.length_map]
    rfl
  rw [counted]
  refine List.Perm.length_eq ?_
  refine (List.perm_ext_iff_of_nodup (unique.sublist (List.filter_sublist.map _)) distinct).mpr ?_
  intro key
  simp [lists, get?_eq_some_iff unique]

end Flowline.Entries
