import AccessControl.Double.Shortest

/-!
# The shortest significand is positive

A double that is not zero has a decimal significand that is not zero, whichever count of digits it
was found with, and taking its trailing zeros away leaves it so.
-/

namespace AccessControl.Double

theorem significand_ne_zero {d : Double} (h : d.magnitude ≠ 0) : d.significand ≠ 0 := by
  have hpos : 0 < Nat.pow 2 52 := by decide
  unfold significand
  simp only []
  split
  · rename_i hsmall
    rwa [Nat.mod_eq_of_lt hsmall]
  · omega

theorem ne_zero_of_choice {first second : Nat} {p q : Prop} [Decidable p] [Decidable q] {e : Int}
    {x : Nat × Int} (h : (if first ≠ 0 ∧ p then some (first, e)
      else if second ≠ 0 ∧ q then some (second, e) else none) = some x) : x.1 ≠ 0 := by
  split at h
  · rename_i hfirst
    cases h
    exact hfirst.1
  · split at h
    · rename_i hsecond
      cases h
      exact hsecond.1
    · cases h

theorem candidate_ne_zero {d : Double} {top : Int} {count : Nat} {x : Nat × Int}
    (h : d.candidate top count = some x) : x.1 ≠ 0 := by
  unfold candidate at h
  simp only [Bool.and_eq_true, decide_eq_true_eq] at h
  exact ne_zero_of_choice h

theorem shortest_ne_zero {d : Double} (h : d.magnitude ≠ 0) : d.shortest.1 ≠ 0 := by
  unfold shortest
  simp only []
  generalize hfound : (List.range 17).findSome? _ = found
  cases found with
  | none => exact significand_ne_zero h
  | some x =>
      obtain ⟨count, -, hcount⟩ := List.exists_of_findSome?_eq_some hfound
      exact candidate_ne_zero hcount

theorem stripZeros_ne_zero (fuel : Nat) {n : Nat} (h : n ≠ 0) (e : Int) :
    (stripZeros fuel n e).1 ≠ 0 := by
  induction fuel generalizing n e with
  | zero => exact h
  | succ fuel ih =>
      unfold stripZeros
      split
      · rename_i hzero
        simp only [ne_eq, h, not_false_eq_true, decide_true, Bool.true_and,
          decide_eq_true_eq] at hzero
        exact ih (by omega) _
      · exact h

end AccessControl.Double
