import AccessControl.Entries
import Mathlib.Data.String.Basic

/-!
# Sorted entries are determined by their values

Writing keeps entries sorted, and two sorted lists that hold the same value under every key are the
same list. So maps that were written in different ways are compared key by key.
-/

namespace AccessControl.Entries

variable {α : Type}

theorem mem_put {entries : Entries α} {key : String} {value : α} {entry : String × α}
    (h : entry ∈ entries.put key value) : entry = (key, value) ∨ entry ∈ entries := by
  induction entries with
  | nil => exact .inl (List.mem_singleton.mp h)
  | cons first rest ih =>
      rcases first with ⟨k, v⟩
      unfold put at h
      split at h
      · rcases List.mem_cons.mp h with h | h
        · exact .inl h
        · exact .inr (List.mem_cons_of_mem _ h)
      · split at h
        · exact List.mem_cons.mp h
        · rcases List.mem_cons.mp h with h | h
          · exact .inr (List.mem_cons.mpr (.inl h))
          · exact (ih h).imp_right (List.mem_cons_of_mem _)

theorem Sorted.put {entries : Entries α} (h : entries.Sorted) (key : String) (value : α) :
    (entries.put key value).Sorted := by
  induction entries with
  | nil => exact List.pairwise_singleton _ _
  | cons first rest ih =>
      rcases first with ⟨k, v⟩
      obtain ⟨hfirst, hrest⟩ := List.pairwise_cons.mp h
      unfold Entries.put
      split
      · rename_i hk
        exact List.pairwise_cons.mpr ⟨fun entry hentry => hk ▸ hfirst entry hentry, hrest⟩
      · rename_i hne
        split
        · rename_i hlt
          refine List.pairwise_cons.mpr ⟨?_, h⟩
          intro entry hentry
          rcases List.mem_cons.mp hentry with rfl | hentry
          · exact hlt
          · exact lt_trans hlt (hfirst entry hentry)
        · rename_i hnot
          refine List.pairwise_cons.mpr ⟨?_, ih hrest⟩
          intro entry hentry
          rcases mem_put hentry with rfl | hentry
          · exact lt_of_le_of_ne (not_lt.mp hnot) hne
          · exact hfirst entry hentry

theorem Sorted.putAll {entries : Entries α} (h : entries.Sorted) (new : Entries α) :
    (entries.putAll new).Sorted := by
  induction new generalizing entries with
  | nil => exact h
  | cons entry new ih => exact ih (h.put entry.1 entry.2)

theorem sorted_ofList (list : List (String × α)) : (ofList list).Sorted :=
  Sorted.putAll List.Pairwise.nil list

theorem get?_eq_none_of_lt {entries : Entries α} {key : String}
    (h : ∀ entry ∈ entries, key < entry.1) : entries.get? key = none := by
  induction entries with
  | nil => rfl
  | cons first rest ih =>
      rcases first with ⟨k, v⟩
      obtain ⟨hfirst, hrest⟩ := List.forall_mem_cons.mp h
      rw [get?, if_neg (ne_of_gt hfirst), ih hrest]

theorem get?_head (key : String) (value : α) (rest : Entries α) :
    get? ((key, value) :: rest) key = some value := if_pos rfl

theorem get?_cons_of_ne {key other : String} (h : key ≠ other) (value : α) (rest : Entries α) :
    get? ((key, value) :: rest) other = rest.get? other := if_neg h

/-- Sorted entries with the same values are the same. -/
theorem Sorted.ext {entries others : Entries α} (h : entries.Sorted) (h' : others.Sorted)
    (hvalues : ∀ key, entries.get? key = others.get? key) : entries = others := by
  induction entries generalizing others with
  | nil =>
      cases others with
      | nil => rfl
      | cons other others =>
          have hvalue := hvalues other.1
          rw [get?_head] at hvalue
          cases hvalue
  | cons entry entries ih =>
      rcases entry with ⟨k, v⟩
      obtain ⟨hfirst, hrest⟩ := List.pairwise_cons.mp h
      cases others with
      | nil =>
          have hvalue := hvalues k
          rw [get?_head] at hvalue
          cases hvalue
      | cons other others =>
          rcases other with ⟨k', v'⟩
          obtain ⟨hfirst', hrest'⟩ := List.pairwise_cons.mp h'
          -- A smaller first key would be missing on the other side.
          have hkey : k = k' := by
            rcases lt_trichotomy k k' with hlt | heq | hgt
            · have habsent : get? ((k', v') :: others) k = none := by
                refine get?_eq_none_of_lt (List.forall_mem_cons.mpr ⟨hlt, ?_⟩)
                exact fun other hother => lt_trans hlt (hfirst' other hother)
              rw [← hvalues, get?_head] at habsent
              cases habsent
            · exact heq
            · have habsent : get? ((k, v) :: entries) k' = none := by
                refine get?_eq_none_of_lt (List.forall_mem_cons.mpr ⟨hgt, ?_⟩)
                exact fun entry hentry => lt_trans hgt (hfirst entry hentry)
              rw [hvalues, get?_head] at habsent
              cases habsent
          subst hkey
          have hvalue := hvalues k
          rw [get?_head, get?_head, Option.some.injEq] at hvalue
          subst hvalue
          refine congrArg _ (ih hrest hrest' ?_)
          intro key
          by_cases hkey : k = key
          · subst hkey
            rw [get?_eq_none_of_lt hfirst, get?_eq_none_of_lt hfirst']
          · have hboth := hvalues key
            rwa [get?_cons_of_ne hkey, get?_cons_of_ne hkey] at hboth

theorem Sorted.eq_iff {entries others : Entries α} (h : entries.Sorted) (h' : others.Sorted) :
    entries = others ↔ ∀ key, entries.get? key = others.get? key :=
  ⟨fun heq _ => heq ▸ rfl, h.ext h'⟩

theorem get?_putAll_of_notMem {entries new : Entries α} {key : String}
    (h : key ∉ new.map Prod.fst) : (entries.putAll new).get? key = entries.get? key := by
  induction new generalizing entries with
  | nil => rfl
  | cons entry new ih =>
      rw [List.map_cons, List.mem_cons, not_or] at h
      rw [putAll_cons, ih h.2, get?_put, if_neg (Ne.symm h.1)]

/-- What is written under a key hides what stood there before. -/
theorem get?_putAll_of_mem {new : Entries α} {key : String} (h : key ∈ new.map Prod.fst)
    (entries others : Entries α) : (entries.putAll new).get? key = (others.putAll new).get? key := by
  induction new generalizing entries others with
  | nil => exact absurd h List.not_mem_nil
  | cons entry new ih =>
      rw [putAll_cons, putAll_cons]
      by_cases hnew : key ∈ new.map Prod.fst
      · exact ih hnew _ _
      · have hkey : entry.1 = key := by
          rcases List.mem_cons.mp h with hkey | hkey
          · exact hkey.symm
          · exact absurd hkey hnew
        rw [get?_putAll_of_notMem hnew, get?_putAll_of_notMem hnew, get?_put, get?_put,
          if_pos hkey, if_pos hkey]

/-- A list of entries writes exactly its own keys. -/
theorem isSome_get?_ofList_iff (list : List (String × α)) (key : String) :
    ((ofList list).get? key).isSome ↔ key ∈ list.map Prod.fst := by
  have hall : ∀ entries : Entries α,
      ((entries.putAll list).get? key).isSome ↔
        (entries.get? key).isSome ∨ key ∈ list.map Prod.fst := by
    induction list with
    | nil => simp
    | cons entry list ih =>
        intro entries
        rw [putAll_cons, ih, get?_put, List.map_cons, List.mem_cons]
        by_cases hkey : entry.1 = key
        · simp [hkey]
        · simp [hkey, Ne.symm hkey]
  exact (hall []).trans (by simp)

/-- Under each key stands what was written, and what stood there before if nothing was. -/
theorem get?_putAll (entries new : Entries α) (key : String) :
    (entries.putAll new).get? key = ((ofList new).get? key).or (entries.get? key) := by
  by_cases hkey : key ∈ new.map Prod.fst
  · obtain ⟨value, hvalue⟩ := Option.isSome_iff_exists.mp ((isSome_get?_ofList_iff new key).mpr hkey)
    rw [get?_putAll_of_mem hkey entries [], ← ofList, hvalue, Option.some_or]
  · rw [get?_putAll_of_notMem hkey, ofList, get?_putAll_of_notMem hkey, get?_nil, Option.none_or]

theorem get?_ofList_map {β : Type} (f : α → β) (list : List (String × α)) (key : String) :
    (ofList (list.map fun entry => (entry.1, f entry.2))).get? key =
      ((ofList list).get? key).map f := by
  have hall : ∀ (entries : Entries α) (others : Entries β),
      (∀ key, others.get? key = (entries.get? key).map f) →
        (others.putAll (list.map fun entry => (entry.1, f entry.2))).get? key =
          ((entries.putAll list).get? key).map f := by
    induction list with
    | nil => exact fun _ _ h => h key
    | cons entry list ih =>
        intro entries others h
        refine ih (entries.put entry.1 entry.2) (others.put entry.1 (f entry.2)) ?_
        intro other
        rw [get?_put, get?_put, h]
        split <;> rfl
  exact hall [] [] fun _ => rfl

theorem get?_map {β : Type} (f : α → β) (entries : Entries α) (key : String) :
    get? (entries.map fun entry => (entry.1, f entry.2)) key = (entries.get? key).map f := by
  induction entries with
  | nil => rfl
  | cons entry rest ih =>
      rw [List.map_cons, get?, get?, ih]
      split <;> rfl

/-! ## Entries whose keys do not repeat -/

theorem Sorted.nodup_keys {entries : Entries α} (h : entries.Sorted) :
    (entries.map Prod.fst).Nodup :=
  (List.pairwise_map.mpr h).imp ne_of_lt

theorem get?_eq_some_iff_mem {entries : Entries α} (hnodup : (entries.map Prod.fst).Nodup)
    {key : String} {value : α} : entries.get? key = some value ↔ (key, value) ∈ entries := by
  induction entries with
  | nil => simp
  | cons entry rest ih =>
      rcases entry with ⟨k, v⟩
      obtain ⟨hfirst, hrest⟩ := List.nodup_cons.mp hnodup
      rw [List.mem_cons, Prod.mk.injEq]
      by_cases hkey : k = key
      · subst hkey
        have habsent : (k, value) ∉ rest := fun h => hfirst (List.mem_map.mpr ⟨_, h, rfl⟩)
        rw [get?_head, Option.some.injEq, or_iff_left habsent, eq_comm]
        exact (and_iff_right rfl).symm
      · rw [get?_cons_of_ne hkey, ih hrest, or_iff_right fun h => hkey h.1.symm]

theorem get?_eq_of_perm {entries others : Entries α} (h : entries.Perm others)
    (hnodup : (entries.map Prod.fst).Nodup) (key : String) :
    entries.get? key = others.get? key := by
  ext value
  rw [get?_eq_some_iff_mem hnodup, get?_eq_some_iff_mem ((h.map _).nodup hnodup), h.mem_iff]

theorem get?_putAll_of_nodup {new : Entries α} (hnodup : (new.map Prod.fst).Nodup)
    (entries : Entries α) (key : String) :
    (entries.putAll new).get? key = (new.get? key).or (entries.get? key) := by
  induction new generalizing entries with
  | nil => rfl
  | cons entry new ih =>
      rcases entry with ⟨k, v⟩
      obtain ⟨hfirst, hrest⟩ := List.nodup_cons.mp hnodup
      by_cases hkey : k = key
      · subst hkey
        rw [putAll_cons, get?_putAll_of_notMem hfirst, get?_put, if_pos rfl, get?_head,
          Option.some_or]
      · rw [putAll_cons, ih hrest, get?_put, if_neg hkey, get?_cons_of_ne hkey]

/-- Writing sorted entries in any order makes them again. -/
theorem Sorted.ofList_eq_of_perm {entries : Entries α} (h : entries.Sorted)
    {list : List (String × α)} (hperm : list.Perm entries) : ofList list = entries := by
  refine (sorted_ofList list).ext h fun key => ?_
  have hnodup : (list.map Prod.fst).Nodup := (hperm.symm.map _).nodup h.nodup_keys
  rw [ofList, get?_putAll_of_nodup hnodup, get?_nil, Option.or_none, get?_eq_of_perm hperm hnodup]

end AccessControl.Entries
