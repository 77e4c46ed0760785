import AccessControl.Text.Blank
import Mathlib.Data.List.DropRight

/-!
# Trimmed texts

Trimming drops a run from each end of a list, so it leaves a list as it is exactly if neither end of
it is to be dropped. What has been trimmed once is not changed by trimming it again, and a run of
characters to be dropped in front of a list goes away without a trace. What texts lose are blanks,
and no letter is one.
-/

namespace AccessControl.Text

variable {p : Char → Bool} {cs : List Char}

theorem dropWhile_eq_self_iff_head? :
    cs.dropWhile p = cs ↔ ∀ c ∈ cs.head?, p c = false := by
  cases cs with
  | nil => simp
  | cons first rest => simp [List.dropWhile_eq_self_iff]

theorem rdropWhile_eq_self_iff_getLast? :
    cs.rdropWhile p = cs ↔ ∀ c ∈ cs.getLast?, p c = false := by
  rw [List.rdropWhile, List.reverse_eq_iff, dropWhile_eq_self_iff_head?, List.head?_reverse]

theorem trimEnds_eq_rdropWhile (p : Char → Bool) (cs : List Char) :
    trimEnds p cs = (cs.dropWhile p).rdropWhile p := rfl

theorem trimEnds_eq_self_iff :
    trimEnds p cs = cs ↔ (∀ c ∈ cs.head?, p c = false) ∧ ∀ c ∈ cs.getLast?, p c = false := by
  rw [← dropWhile_eq_self_iff_head?, ← rdropWhile_eq_self_iff_getLast?, trimEnds_eq_rdropWhile]
  constructor
  · intro h
    -- Nothing can have been dropped at the front, since what is left is still the whole list.
    have hfront : cs.dropWhile p = cs := by
      have hprefix := List.rdropWhile_prefix p (cs.dropWhile p)
      rw [h] at hprefix
      exact (List.dropWhile_suffix p).eq_of_length_le hprefix.length_le
    rw [hfront] at h
    exact ⟨hfront, h⟩
  · rintro ⟨hfront, hback⟩
    rw [hfront, hback]

theorem trimEnds_trimEnds (p : Char → Bool) (cs : List Char) :
    trimEnds p (trimEnds p cs) = trimEnds p cs := by
  rw [trimEnds_eq_self_iff, trimEnds_eq_rdropWhile]
  refine ⟨fun c hc => ?_, rdropWhile_eq_self_iff_getLast?.mp (List.rdropWhile_idempotent p _)⟩
  -- What is dropped at the back leaves the first character where it is.
  obtain ⟨rest, hrest⟩ := List.head?_eq_some_iff.mp hc
  obtain ⟨dropped, hdropped⟩ := List.rdropWhile_prefix p (cs.dropWhile p)
  have hhead := List.head?_dropWhile_not p cs
  rw [← hdropped, hrest] at hhead
  exact hhead

theorem trimEnds_append_of_forall {dropped : List Char} (h : ∀ c ∈ dropped, p c = true)
    (cs : List Char) : trimEnds p (dropped ++ cs) = trimEnds p cs := by
  rw [trimEnds, List.dropWhile_append_of_pos h, trimEnds]

theorem trim_trim (s : String) : trim (trim s) = trim s := by
  rw [trim, toList_trim, trimEnds_trimEnds, ← trim]

/-! ## Blanks -/

theorem trim_of_not_isBlank {s : String} (h : ∀ c ∈ s.toList, isBlank c = false) : trim s = s := by
  have hends : trimEnds isBlank s.toList = s.toList := trimEnds_eq_self_iff.mpr
    ⟨fun c hc => h c (List.mem_of_mem_head? hc), fun c hc => h c (List.mem_of_mem_getLast? hc)⟩
  rw [trim, hends, String.ofList_toList]

theorem isBlank_of_isAsciiBlank {c : Char} (h : isAsciiBlank c = true) : isBlank c = true := by
  simp only [isAsciiBlank, Bool.or_eq_true, beq_iff_eq] at h
  rcases h with (((rfl | rfl) | rfl) | rfl) | rfl <;> decide

/-- Blanks are no letters, so they have no other case. -/
theorem toLower_of_isBlank {c : Char} (h : isBlank c = true) : c.toLower = c := by
  refine dif_neg ?_
  rintro ⟨hlow, hhigh⟩
  have hlow : 65 ≤ c.toNat := UInt32.le_iff_toNat_le.mp hlow
  have hhigh : c.toNat ≤ 90 := UInt32.le_iff_toNat_le.mp hhigh
  simp only [isBlank, Bool.or_eq_true, Bool.and_eq_true, decide_eq_true_eq, beq_iff_eq] at h
  omega

end AccessControl.Text
