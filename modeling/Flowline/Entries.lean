/-!
Tables with text keys, listed in ascending key order. What an operation does is said by what `get?`
finds afterwards.
-/

namespace Flowline

universe u v

abbrev Entries (α : Type u) := List (String × α)

namespace Entries

variable {α : Type u} {β : Type v}

def get? : Entries α → String → Option α
  | [], _ => none
  | (k, value) :: rest, key => if k = key then some value else get? rest key

def has (table : Entries α) (key : String) : Bool := (get? table key).isSome

/-- Enters `value` under `key`, in place of an earlier value of that key. -/
def insert : Entries α → String → α → Entries α
  | [], key, value => [(key, value)]
  | (k, old) :: rest, key, value =>
    if key < k then (key, value) :: (k, old) :: rest
    else if k = key then (key, value) :: rest
    else (k, old) :: insert rest key value

def ofList (pairs : List (String × α)) : Entries α :=
  pairs.foldl (fun table pair => insert table pair.1 pair.2) []

def overlay (base top : Entries α) : Entries α :=
  top.foldl (fun table entry => insert table entry.1 entry.2) base

def push (table : Entries (List α)) (key : String) (item : α) : Entries (List α) :=
  insert table key ((get? table key).getD [] ++ [item])

def keys (table : Entries α) : List String := table.map Prod.fst

def values (table : Entries α) : List α := table.map Prod.snd

def mapValues (f : α → β) (table : Entries α) : Entries β :=
  table.map fun entry => (entry.1, f entry.2)

/-- Keys strictly ascend, so no key occurs twice. -/
def Sorted (table : Entries α) : Prop := table.Pairwise fun left right => left.1 < right.1

@[simp] theorem get?_nil (key : String) : get? ([] : Entries α) key = none := rfl

theorem get?_insert (table : Entries α) (key : String) (value : α) (other : String) :
    get? (insert table key value) other = if key = other then some value else get? table other := by
  induction table with
  | nil => rfl
  | cons entry rest ih =>
    obtain ⟨k, old⟩ := entry
    unfold insert
    split
    · simp [get?]
    · split
      · rename_i h
        subst h
        by_cases hk : k = other <;> simp [get?, hk]
      · rename_i h
        by_cases hk : k = other
        · have : ¬ key = other := fun hkey => h (hk.trans hkey.symm)
          simp [get?, hk, this]
        · simp [get?, hk, ih]

end Entries

end Flowline
