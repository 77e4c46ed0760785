import AccessControl.Text.Split
import Mathlib.Data.List.TakeWhile

/-!
# Splitting and joining

`splitList` is the library's `List.splitOn`, so its lemmas are there for it; joining what was split
gives the text back. Some more are needed. No piece holds the separator. A character put in front or
at the end goes to the first piece or to the last. A joined list split again falls into the pieces
of its parts. The last separator of a list cuts it in one way only, as does the first. And rewriting
the parts of a joined list changes it, provided that a part that changes already differs in its
first element: then nothing that follows can make up for the difference.
-/

namespace AccessControl.Text

variable {α : Type}

theorem splitList_eq_splitOn (d : Char) (cs : List Char) : splitList d cs = cs.splitOn d := by
  induction cs with
  | nil => rfl
  | cons c cs ih =>
      rw [splitList, List.splitOn_cons_eq_if_modifyHead, ih]
      by_cases hc : c = d
      · simp [hc]
      · have hne := List.splitOn_ne_nil d cs
        cases hpieces : cs.splitOn d with
        | nil => exact absurd hpieces hne
        | cons piece pieces => simp [hc]

theorem intercalate_splitOn_dot (s : String) : ".".intercalate (splitOn '.' s) = s := by
  have hpieces : (splitOn '.' s).map String.toList = s.toList.splitOn '.' := by
    rw [splitOn, List.map_map, splitList_eq_splitOn]
    exact List.map_id'' (fun _ => String.toList_ofList) _
  rw [← String.toList_inj, String.toList_intercalate, hpieces]
  exact List.intercalate_splitOn '.'

/-- No piece holds the separator. -/
theorem notMem_of_mem_splitList {d : Char} {cs piece : List Char} (h : piece ∈ splitList d cs) :
    d ∉ piece := by
  fun_induction splitList d cs generalizing piece with
  | case1 =>
      rw [List.mem_singleton.mp h]
      exact List.not_mem_nil
  | case2 cs ih =>
      rcases List.mem_cons.mp h with rfl | h
      · exact List.not_mem_nil
      · exact ih h
  | case3 c cs hc hpieces ih => exact absurd hpieces (splitList_ne_nil d cs)
  | case4 c cs hc first pieces hpieces ih =>
      rw [hpieces] at ih
      rcases List.mem_cons.mp h with rfl | h
      · rw [List.mem_cons, not_or]
        exact ⟨Ne.symm hc, ih List.mem_cons_self⟩
      · exact ih (List.mem_cons_of_mem _ h)

/-- The pieces hold nothing that the list does not. -/
theorem mem_of_mem_splitList {d x : Char} {cs piece : List Char} (h : piece ∈ splitList d cs)
    (hx : x ∈ piece) : x ∈ cs := by
  fun_induction splitList d cs generalizing piece with
  | case1 =>
      rw [List.mem_singleton.mp h] at hx
      exact hx
  | case2 cs ih =>
      rcases List.mem_cons.mp h with rfl | h
      · exact absurd hx List.not_mem_nil
      · exact List.mem_cons_of_mem _ (ih h hx)
  | case3 c cs hc hpieces ih => exact absurd hpieces (splitList_ne_nil d cs)
  | case4 c cs hc first pieces hpieces ih =>
      rw [hpieces] at ih
      rcases List.mem_cons.mp h with rfl | h
      · rcases List.mem_cons.mp hx with rfl | hx
        · exact List.mem_cons_self
        · exact List.mem_cons_of_mem _ (ih List.mem_cons_self hx)
      · exact List.mem_cons_of_mem _ (ih (List.mem_cons_of_mem _ h) hx)

theorem exists_splitList_append_singleton (d : Char) (cs : List Char) :
    ∃ front last, splitList d cs = front ++ [last] ∧
      ∀ c, c ≠ d → splitList d (cs ++ [c]) = front ++ [last ++ [c]] := by
  induction cs with
  | nil => exact ⟨[], [], rfl, fun c hc => by simp [splitList, hc]⟩
  | cons first cs ih =>
      obtain ⟨front, last, hsplit, happend⟩ := ih
      by_cases hfirst : first = d
      · subst hfirst
        refine ⟨[] :: front, last, ?_, fun c hc => ?_⟩
        · rw [splitList_cons_self, hsplit, List.cons_append]
        · rw [List.cons_append, splitList_cons_self, happend c hc, List.cons_append]
      · cases front with
        | nil =>
            refine ⟨[], first :: last, ?_, fun c hc => ?_⟩
            · simp [splitList, hfirst, hsplit]
            · simp [splitList, hfirst, happend c hc]
        | cons piece front =>
            refine ⟨(first :: piece) :: front, last, ?_, fun c hc => ?_⟩
            · simp [splitList, hfirst, hsplit]
            · simp [splitList, hfirst, happend c hc]

/-- Joining and splitting cuts every part and keeps their order. -/
theorem splitOn_intercalate_eq_flatMap [BEq α] [LawfulBEq α] (d : α) {parts : List (List α)}
    (hne : parts ≠ []) :
    ([d].intercalate parts).splitOn d = parts.flatMap fun part => part.splitOn d := by
  induction parts with
  | nil => exact absurd rfl hne
  | cons part parts ih =>
      cases parts with
      | nil => simp
      | cons next parts =>
          rw [List.intercalate_cons_cons, List.append_assoc, List.singleton_append,
            List.splitOn_append_cons_self, ih (by simp)]
          exact List.flatMap_cons.symm

/-- What stands before and behind the last separator is determined by the whole list. -/
theorem append_cons_inj_of_notMem_right [BEq α] [LawfulBEq α] {d : α} {xs ys xs' ys' : List α}
    (hys : d ∉ ys) (hys' : d ∉ ys') (h : xs ++ d :: ys = xs' ++ d :: ys') : xs = xs' ∧ ys = ys' := by
  have hpieces := congrArg (List.splitOn d) h
  rw [List.splitOn_append_cons_self, List.splitOn_append_cons_self,
    List.splitOn_eq_singleton hys, List.splitOn_eq_singleton hys'] at hpieces
  obtain ⟨-, hlast⟩ := List.append_inj' hpieces rfl
  obtain rfl := List.head_eq_of_cons_eq hlast
  exact ⟨List.append_cancel_right h, rfl⟩

/-- Parts that both lists start with can be left out. -/
theorem intercalate_append_eq_iff (d : α) (shared : List (List α)) {xs ys : List (List α)}
    (hnil : xs = [] ↔ ys = []) :
    [d].intercalate (shared ++ xs) = [d].intercalate (shared ++ ys) ↔
      [d].intercalate xs = [d].intercalate ys := by
  by_cases hxs : xs = []
  · rw [hxs, hnil.mp hxs]
    simp
  · have hys : ys ≠ [] := fun hys => hxs (hnil.mpr hys)
    induction shared with
    | nil => rfl
    | cons part shared ih =>
        have hleft : shared ++ xs ≠ [] := List.append_ne_nil_of_right_ne_nil shared hxs
        have hright : shared ++ ys ≠ [] := List.append_ne_nil_of_right_ne_nil shared hys
        rw [List.cons_append, List.cons_append, List.intercalate_cons_of_ne_nil hleft,
          List.intercalate_cons_of_ne_nil hright, List.append_assoc, List.append_assoc,
          List.append_cancel_left_eq, List.append_cancel_left_eq]
        exact ih

/-- Rewriting the parts shows in the joined list, if a part that changes gets another first
element. -/
theorem intercalate_map_eq_iff (d : α) {f : List α → List α} {parts : List (List α)}
    (hf : ∀ part ∈ parts, f part = part ∨ f part ≠ [] ∧ part ≠ [] ∧
      (f part).head? ≠ part.head?) :
    [d].intercalate (parts.map f) = [d].intercalate parts ↔ ∀ part ∈ parts, f part = part := by
  constructor
  · intro hjoined
    induction parts with
    | nil => simp
    | cons part parts ih =>
        have hrest := fun other h => hf other (List.mem_cons_of_mem part h)
        rcases hf part List.mem_cons_self with hpart | ⟨hne, hne', hheads⟩
        · rw [List.forall_mem_cons]
          refine ⟨hpart, ?_⟩
          cases parts with
          | nil => simp
          | cons next parts =>
              rw [List.map_cons, hpart] at hjoined
              simp only [List.map_cons, List.intercalate_cons_cons, List.append_assoc,
                List.append_cancel_left_eq] at hjoined
              exact ih hrest hjoined
        -- The first elements of the two joined lists are those of `f part` and `part`.
        · obtain ⟨a, p, hp⟩ := List.exists_cons_of_ne_nil hne
          obtain ⟨b, q, rfl⟩ := List.exists_cons_of_ne_nil hne'
          have hhead := congrArg List.head? hjoined
          rw [List.map_cons, hp] at hhead
          rw [hp] at hheads
          cases parts with
          | nil => exact absurd (by simpa using hhead) hheads
          | cons next parts => exact absurd (by simpa using hhead) hheads
  · intro hequal
    rw [List.map_congr_left hequal, List.map_id']

theorem notMem_takeWhile (d : Char) (cs : List Char) : d ∉ cs.takeWhile (· != d) := by
  intro hmem
  have hd := List.all_eq_true.mp (List.all_takeWhile (p := (· != d))) d hmem
  exact absurd rfl (bne_iff_ne.mp hd)

theorem takeWhile_append_cons {d : Char} {front : List Char} (h : d ∉ front)
    (behind : List Char) : (front ++ d :: behind).takeWhile (· != d) = front := by
  have hall : ∀ c ∈ front, (c != d) = true := by
    intro c hc
    exact bne_iff_ne.mpr fun heq => h (heq ▸ hc)
  rw [List.takeWhile_append_of_pos hall]
  simp

/-- Cutting at the first character of a class finds the only cut in front of which there is none. -/
theorem splitOnce_eq_some_iff {p : Char → Bool} {cs before after : List Char} :
    splitOnce p cs = some (before, after) ↔
      ∃ c, cs = before ++ c :: after ∧ p c = true ∧ ∀ b ∈ before, p b = false := by
  unfold splitOnce
  constructor
  · intro h
    cases hrest : cs.dropWhile (fun c => !p c) with
    | nil =>
        rw [hrest] at h
        cases h
    | cons c rest =>
        rw [hrest] at h
        cases h
        have hhead := List.head?_dropWhile_not (fun c => !p c) cs
        have hwhole := List.takeWhile_append_dropWhile (p := fun c => !p c) (l := cs)
        rw [hrest] at hhead hwhole
        refine ⟨c, hwhole.symm, by simpa using hhead, fun b hb => ?_⟩
        simpa using List.all_eq_true.mp List.all_takeWhile b hb
  · rintro ⟨c, rfl, hc, hbefore⟩
    have hall : ∀ b ∈ before, (fun c => !p c) b = true := by simpa using hbefore
    rw [List.dropWhile_append_of_pos hall, List.takeWhile_append_of_pos hall]
    simp [hc]

theorem splitOnce_eq_none_iff {p : Char → Bool} {cs : List Char} :
    splitOnce p cs = none ↔ ∀ c ∈ cs, p c = false := by
  have hnil : cs.dropWhile (fun c => !p c) = [] ↔ ∀ c ∈ cs, p c = false := by
    simp [List.dropWhile_eq_nil_iff]
  rw [← hnil]
  unfold splitOnce
  cases cs.dropWhile (fun c => !p c) <;> simp

theorem rsplitOnce_eq_some_iff {d : Char} {cs before after : List Char} :
    rsplitOnce d cs = some (before, after) ↔ cs = before ++ d :: after ∧ d ∉ after := by
  unfold rsplitOnce
  constructor
  · intro h
    split at h
    · cases h
    · rename_i back front hsplit
      cases h
      obtain ⟨c, hcs, hc, hback⟩ := splitOnce_eq_some_iff.mp hsplit
      obtain rfl : c = d := beq_iff_eq.mp hc
      refine ⟨?_, fun hmem => ?_⟩
      · rw [← List.reverse_reverse cs, hcs]
        simp
      · exact absurd (hback c (List.mem_reverse.mp hmem)) (by simp)
  · rintro ⟨rfl, hafter⟩
    have hsplit : splitOnce (· == d) (before ++ d :: after).reverse =
        some (after.reverse, before.reverse) := by
      refine splitOnce_eq_some_iff.mpr ⟨d, by simp, beq_self_eq_true d, fun b hb => ?_⟩
      exact beq_eq_false_iff_ne.mpr fun hbd => hafter (hbd ▸ List.mem_reverse.mp hb)
    rw [hsplit]
    simp

theorem rsplitOnce_eq_none_iff {d : Char} {cs : List Char} :
    rsplitOnce d cs = none ↔ d ∉ cs := by
  have hnone : rsplitOnce d cs = none ↔ splitOnce (· == d) cs.reverse = none := by
    unfold rsplitOnce
    cases splitOnce (· == d) cs.reverse <;> simp
  rw [hnone, splitOnce_eq_none_iff]
  simp only [List.mem_reverse, beq_eq_false_iff_ne]
  exact ⟨fun hall hd => hall d hd rfl, fun hd c hc hcd => hd (hcd ▸ hc)⟩

end AccessControl.Text
