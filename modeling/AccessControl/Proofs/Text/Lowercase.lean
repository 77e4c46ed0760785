import AccessControl.Text.Lowercase
import Mathlib.Data.List.Forall2

/-!
# Changing the case of ASCII

On ASCII texts full lower-casing is the lower-casing of each character: the two rules that look at
more than one character, or yield more than one, are about letters outside ASCII. A letter moves by
32 to the letter of the other case and all else stays, so no other character becomes a dot, and
texts that are the same in upper case are the same in lower case. Letters and digits together lie
between `0` and `z`.
-/

namespace AccessControl.Text

theorem toNat_of_isAlphanum {c : Char} (h : c.isAlphanum = true) :
    48 ≤ c.toNat ∧ c.toNat ≤ 122 := by
  have hranges : c.isAlphanum = (decide (c.val ≥ 'A'.val ∧ c.val ≤ 'Z'.val) ||
    (decide (c.val ≥ 'a'.val) && decide (c.val ≤ 'z'.val)) ||
    (decide (c.val ≥ '0'.val) && decide (c.val ≤ '9'.val))) := rfl
  rw [hranges] at h
  simp only [Bool.or_eq_true, Bool.and_eq_true, decide_eq_true_eq, ge_iff_le,
    UInt32.le_iff_toNat_le, Char.toNat_val, Char.reduceToNat] at h
  omega

theorem lowerChar_of_ascii {c : Char} (h : c.toNat < 128) : lowerChar c = [c.toLower] :=
  if_pos h

theorem lowerAfter_of_ascii (before : List Char) {cs : List Char}
    (h : ∀ c ∈ cs, c.toNat < 128) : lowerAfter before cs = cs.map Char.toLower := by
  induction cs generalizing before with
  | nil => rfl
  | cons c cs ih =>
      obtain ⟨hc, hcs⟩ := List.forall_mem_cons.mp h
      have hsigma : c ≠ capitalSigma := by
        rintro rfl
        exact absurd hc (by decide)
      rw [lowerAfter, if_neg hsigma, lowerChar_of_ascii hc, ih _ hcs]
      rfl

theorem lowercase_of_ascii {s : String} (h : ∀ c ∈ s.toList, c.toNat < 128) :
    lowercase s = asciiLowercase s :=
  congrArg String.ofList (lowerAfter_of_ascii [] h)

theorem toNat_toLower (c : Char) :
    c.toLower.toNat = if 65 ≤ c.toNat ∧ c.toNat ≤ 90 then c.toNat + 32 else c.toNat := by
  have hiff : 'A'.val ≤ c.val ∧ c.val ≤ 'Z'.val ↔ 65 ≤ c.toNat ∧ c.toNat ≤ 90 :=
    and_congr UInt32.le_iff_toNat_le UInt32.le_iff_toNat_le
  by_cases hupper : 65 ≤ c.toNat ∧ c.toNat ≤ 90
  · have hlower : c.toLower = ⟨c.val + ('a'.val - 'A'.val), _⟩ := dif_pos (hiff.mpr hupper)
    have hshift : ('a'.val - 'A'.val).toNat = 32 := by decide
    have hsum := UInt32.toNat_add c.val ('a'.val - 'A'.val)
    rw [hshift, c.toNat_val] at hsum
    rw [if_pos hupper, hlower, Char.toNat, hsum]
    omega
  · have hsame : c.toLower = c := dif_neg fun h => hupper (hiff.mp h)
    rw [if_neg hupper, hsame]

theorem toNat_toUpper (c : Char) :
    c.toUpper.toNat = if 97 ≤ c.toNat ∧ c.toNat ≤ 122 then c.toNat - 32 else c.toNat := by
  have hiff : 'a'.val ≤ c.val ∧ c.val ≤ 'z'.val ↔ 97 ≤ c.toNat ∧ c.toNat ≤ 122 :=
    and_congr UInt32.le_iff_toNat_le UInt32.le_iff_toNat_le
  by_cases hlower : 97 ≤ c.toNat ∧ c.toNat ≤ 122
  · have hupper : c.toUpper = ⟨c.val + ('A'.val - 'a'.val), _⟩ := dif_pos (hiff.mpr hlower)
    have hshift : ('A'.val - 'a'.val).toNat = 4294967264 := by decide
    have hsum := UInt32.toNat_add c.val ('A'.val - 'a'.val)
    rw [hshift, c.toNat_val] at hsum
    rw [if_pos hlower, hupper, Char.toNat, hsum]
    omega
  · have hsame : c.toUpper = c := dif_neg fun h => hlower (hiff.mp h)
    rw [if_neg hlower, hsame]

/-- Characters that are the same in one case are so in the other. -/
theorem toUpper_eq_iff {c d : Char} : c.toUpper = d.toUpper ↔ c.toLower = d.toLower := by
  rw [← Char.toNat_inj, ← Char.toNat_inj, toNat_toUpper, toNat_toUpper, toNat_toLower,
    toNat_toLower]
  split <;> split <;> split <;> split <;> omega

theorem asciiUppercase_eq_iff {s t : String} :
    asciiUppercase s = asciiUppercase t ↔ eqIgnoringCase s t = true := by
  rw [eqIgnoringCase, beq_iff_eq, asciiUppercase, asciiUppercase, asciiLowercase, asciiLowercase,
    String.ofList_inj, String.ofList_inj, ← List.forall₂_eq_eq_eq, List.forall₂_map_left_iff,
    List.forall₂_map_left_iff, List.forall₂_map_right_iff, List.forall₂_map_right_iff]
  simp only [toUpper_eq_iff]

/-- Lower-casing makes no dots. -/
theorem toLower_eq_dot {c : Char} (h : c.toLower = '.') : c = '.' := by
  have hdot : '.'.toNat = 46 := rfl
  rw [← Char.toNat_inj, toNat_toLower] at h
  rw [← Char.toNat_inj]
  split at h <;> omega

/-- Upper-casing makes no dots. -/
theorem toUpper_eq_dot {c : Char} (h : c.toUpper = '.') : c = '.' := by
  have hdot : '.'.toNat = 46 := rfl
  rw [← Char.toNat_inj, toNat_toUpper] at h
  rw [← Char.toNat_inj]
  split at h <;> omega

end AccessControl.Text
