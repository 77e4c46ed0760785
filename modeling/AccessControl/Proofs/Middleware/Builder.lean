import AccessControl.Proofs.Middleware.Steps

/-!
# What building keeps

No step touches the policy that the building started from, so a middleware that was built asks for
the decision of that policy. Finishing a draft adds nothing to it: it only refuses.
-/

namespace AccessControl.Middleware

theorem Draft.policy_step (draft : Draft) (s : Step) :
    (draft.step s).middleware.policy = draft.middleware.policy := by
  rw [step_eq]

/-- The policy of a draft is the one that the building started from. -/
theorem Draft.policy_foldl (steps : List Step) (draft : Draft) :
    (steps.foldl Draft.step draft).middleware.policy = draft.middleware.policy := by
  induction steps generalizing draft with
  | nil => rfl
  | cons s steps ih => rw [List.foldl_cons, ih, Draft.policy_step]

theorem Draft.policy_ofSteps (policy : Policy) (steps : List Step) :
    (Draft.ofSteps policy steps).middleware.policy = policy := by
  rw [Draft.ofSteps, Draft.policy_foldl]
  rfl

/-- A draft is finished exactly if no step failed and the policy names itself and its decision. -/
theorem Draft.finish_eq_ok_iff (draft : Draft) (middleware : Middleware) :
    draft.finish = .ok middleware ↔
      draft.errors = [] ∧ isBlankText draft.middleware.policy.name = false ∧
        isBlankText draft.middleware.policy.decision = false ∧ draft.middleware = middleware := by
  unfold Draft.finish
  cases draft.errors with
  | cons error errors => simp
  | nil =>
      cases isBlankText draft.middleware.policy.name with
      | true => simp
      | false => cases isBlankText draft.middleware.policy.decision <;> simp

/-- What holds of the middleware at the start and is kept by every step holds of what is built. -/
theorem of_build {P : Middleware → Prop} {policy : Policy} {steps : List Step}
    {middleware : Middleware} (built : build policy steps = .ok middleware)
    (hstart : P (Draft.start policy).middleware)
    (hstep : ∀ draft : Draft, P draft.middleware → ∀ s ∈ steps, P (draft.step s).middleware) :
    P middleware := by
  obtain ⟨-, -, -, rfl⟩ := ((Draft.ofSteps policy steps).finish_eq_ok_iff middleware).mp built
  exact List.foldlRecOn (motive := fun draft => P draft.middleware) steps Draft.step hstart hstep

theorem policy_of_build {policy : Policy} {steps : List Step} {middleware : Middleware}
    (built : build policy steps = .ok middleware) : middleware.policy = policy := by
  obtain ⟨-, -, -, hdraft⟩ := ((Draft.ofSteps policy steps).finish_eq_ok_iff middleware).mp built
  rw [← hdraft, Draft.policy_ofSteps]

end AccessControl.Middleware
