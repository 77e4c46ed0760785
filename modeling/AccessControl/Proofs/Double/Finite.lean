import AccessControl.Double.Basic
import Mathlib.Tactic.Linarith

/-!
# Integers that have a finite double

The double nearest to an integer of 64 bits is finite: the binary exponent of the integer is far
below that of the greatest double, and rounding raises it by one at most.
-/

namespace AccessControl.Double

theorem magnitude_ofMagnitude (negative : Bool) {bits : Nat} (h : bits < Nat.pow 2 63) :
    (ofMagnitude negative bits).magnitude = bits := by
  have hbits : bits < 9223372036854775808 := h
  simp only [magnitude, ofMagnitude, UInt64.toNat_ofNat']
  cases negative <;> norm_num <;> omega

theorem roundHalfEven_le (num den : Nat) : roundHalfEven num den ≤ num / den + 1 := by
  simp only [roundHalfEven]
  split
  · exact Nat.le_succ _
  · split
    · exact le_rfl
    · exact Nat.add_le_add_left (Nat.le_of_lt_succ (Nat.mod_lt _ (by decide))) _

/-- Behind the shift 53 bits are left, and one more by rounding. -/
theorem nearestBits_le (num : Nat) :
    nearestBits num 1 ≤ (binaryExponent num 1 - 52) * Nat.pow 2 52 + (Nat.pow 2 53 + 1) := by
  unfold nearestBits binaryExponent
  rw [Nat.div_one]
  generalize num * Nat.pow 2 1074 = scaled
  refine (Nat.min_le_left _ _).trans (Nat.add_le_add_left ?_ _)
  refine (roundHalfEven_le _ _).trans (Nat.add_le_add_right ?_ 1)
  rw [Nat.one_mul]
  refine Nat.le_of_lt (Nat.div_lt_of_lt_mul ?_)
  calc scaled < 2 ^ (scaled.log2 + 1) := Nat.lt_log2_self
    _ ≤ 2 ^ (scaled.log2 - 52 + 53) := Nat.pow_le_pow_right (by decide) (by omega)
    _ = Nat.pow 2 (scaled.log2 - 52) * Nat.pow 2 53 := Nat.pow_add 2 _ _

theorem log2_mul_pow_lt {num bound : Nat} (h : num < 2 ^ bound) (hbound : 0 < bound) (k : Nat) :
    (num * Nat.pow 2 k).log2 < bound + k := by
  by_cases hzero : num * Nat.pow 2 k = 0
  · rw [hzero, Nat.log2_zero]
    exact Nat.add_pos_left hbound k
  · refine (Nat.log2_lt hzero).mpr ?_
    calc num * Nat.pow 2 k < 2 ^ bound * Nat.pow 2 k :=
          Nat.mul_lt_mul_of_pos_right h (Nat.pow_pos (by decide))
      _ = 2 ^ (bound + k) := (Nat.pow_add 2 bound k).symm

theorem binaryExponent_lt {num : Nat} (h : num < 2 ^ 64) : binaryExponent num 1 < 64 + 1074 := by
  unfold binaryExponent
  rw [Nat.div_one]
  generalize 1074 = k
  exact log2_mul_pow_lt h (by decide) k

theorem isFinite_ofInt {n : Int} (h : n.natAbs < 2 ^ 64) : (ofInt n).isFinite = true := by
  have hbits : nearestBits n.natAbs 1 < 2047 * Nat.pow 2 52 := by
    have hle := nearestBits_le n.natAbs
    have hlt := binaryExponent_lt h
    have hshift : (binaryExponent n.natAbs 1 - 52) * Nat.pow 2 52 ≤ 1086 * Nat.pow 2 52 :=
      Nat.mul_le_mul_right _ (by omega)
    have hsum : 1086 * Nat.pow 2 52 + (Nat.pow 2 53 + 1) < 2047 * Nat.pow 2 52 := by decide
    omega
  have hsmall : 2047 * Nat.pow 2 52 < Nat.pow 2 63 := by decide
  rw [isFinite, ofInt, nearest, magnitude_ofMagnitude _ (hbits.trans hsmall)]
  exact decide_eq_true hbits

end AccessControl.Double
