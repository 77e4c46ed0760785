/-!
# Sorted entries

A finite map from texts is a list of entries with strictly increasing keys. `put` keeps the order
and replaces the value under an existing key, so a list built by `ofList` holds for every key the
value that was written last. `get?` looks only at the first entry with the key, which on sorted
entries is the only one.
-/

namespace AccessControl

abbrev Entries (α : Type) := List (String × α)

namespace Entries

variable {α β : Type}

def get? : Entries α → String → Option α
  | [], _ => none
  | (k, v) :: rest, key => if k = key then some v else get? rest key

/-- Writes a value under a key, before the first greater key. -/
def put : Entries α → String → α → Entries α
  | [], key, value => [(key, value)]
  | (k, v) :: rest, key, value =>
    if k = key then (key, value) :: rest
    else if key < k then (key, value) :: (k, v) :: rest
    else (k, v) :: put rest key value

def erase (entries : Entries α) (key : String) : Entries α :=
  entries.filter fun entry => entry.1 ≠ key

def putAll (entries new : Entries α) : Entries α :=
  new.foldl (fun acc entry => acc.put entry.1 entry.2) entries

/-- The map written by a list of entries; the last of several with one key stays. -/
def ofList (list : List (String × α)) : Entries α :=
  putAll [] list

def Sorted (entries : Entries α) : Prop :=
  entries.Pairwise fun a b => a.1 < b.1

@[simp] theorem get?_nil (key : String) : get? ([] : Entries α) key = none := rfl

theorem get?_put (entries : Entries α) (key other : String) (value : α) :
    (entries.put key value).get? other = if key = other then some value else entries.get? other := by
  induction entries with
  | nil => rfl
  | cons entry rest ih =>
    obtain ⟨k, v⟩ := entry
    simp only [put]
    split
    · rename_i h
      subst h
      simp only [get?]
      split <;> rfl
    · split
      · simp only [get?]
      · rename_i hne hlt
        simp only [get?, ih]
        by_cases hk : k = other
        · have : key ≠ other := fun h => hne (hk.trans h.symm)
          simp [hk, this]
        · simp [hk]

@[simp] theorem putAll_nil (entries : Entries α) : entries.putAll [] = entries := rfl

theorem putAll_cons (entries : Entries α) (key : String) (value : α) (rest : Entries α) :
    entries.putAll ((key, value) :: rest) = (entries.put key value).putAll rest := rfl

end Entries

end AccessControl
