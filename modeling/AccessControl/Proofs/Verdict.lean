import AccessControl.Verdict

/-!
# What an answer settles

An answer may hold any number of decisions, and the authorizer may fail instead of answering. An
outcome is read off an answer with exactly one decision; every other answer is an error, and so is
a failure. The two lemmas about `settle` cover all cases, and callers do not open it again.
-/

namespace AccessControl.Verdict

/-- An answer is reduced to an outcome exactly if it holds one decision with that outcome. -/
theorem reduce_eq_ok_iff (answer : Answer) (holds : Bool) :
    reduce answer = .ok holds ↔ ∃ decision, answer = ⟨[decision]⟩ ∧ decision.holds = holds := by
  rcases answer with ⟨decisions⟩
  constructor
  · intro h
    match decisions, h with
    | [decision], h => exact ⟨decision, rfl, Except.ok.inj h⟩
  · rintro ⟨decision, hanswer, rfl⟩
    rw [hanswer]
    rfl

/-- The only error of an answer is the number of its decisions. -/
theorem reduce_eq_error_iff (answer : Answer) (error : AuthorizationError) :
    reduce answer = .error error ↔
      answer.decisions.length ≠ 1 ∧ error = .invalidDecision answer.decisions.length := by
  rcases answer with ⟨decisions⟩
  match decisions with
  | [] => simp [reduce, eq_comm]
  | [decision] => simp [reduce]
  | first :: second :: rest => simp [reduce, eq_comm]

theorem settle_eq_ok_iff (answer : Except BackendError Answer) (holds : Bool) :
    settle answer = .ok holds ↔
      ∃ decision, answer = .ok ⟨[decision]⟩ ∧ decision.holds = holds := by
  cases answer with
  | error error => simp [settle]
  | ok answer =>
      rw [settle, reduce_eq_ok_iff]
      simp only [Except.ok.injEq]

theorem settle_eq_error_iff (answer : Except BackendError Answer) (error : AuthorizationError) :
    settle answer = .error error ↔
      (∃ fault, answer = .error fault ∧ error = .backend fault) ∨
        ∃ decisions, answer = .ok ⟨decisions⟩ ∧ decisions.length ≠ 1 ∧
          error = .invalidDecision decisions.length := by
  cases answer with
  | error fault => simp [settle, eq_comm]
  | ok answer =>
      rw [settle, reduce_eq_error_iff]
      rcases answer with ⟨decisions⟩
      simp

end AccessControl.Verdict
