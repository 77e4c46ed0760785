import AccessControl.Proofs.Middleware.Builder
import AccessControl.Proofs.Verdict

/-!
# What the policy middleware does with a call

A call on the allow-list passes and a resource that cannot be built is an error, both without a
query. Every other call costs exactly one query, and `Settled` reads the result off the answer to
it. These three cases exclude each other and leave none out, so there is no further way through.
-/

namespace AccessControl.Middleware

variable {Q : Type}

/-- The result of an authorization that has sent its query. One positive decision permits, one
negative decision refuses, any other number of decisions and a failing backend are errors. -/
structure Settled (answer : Except BackendError Answer)
    (result : Except AuthorizationError Unit) : Prop where
  permitted : result = .ok () ↔ ∃ decision, answer = .ok ⟨[decision]⟩ ∧ decision.holds = true
  refused : result = .error .denied ↔
    ∃ decision, answer = .ok ⟨[decision]⟩ ∧ decision.holds = false
  miscounted : ∀ count, result = .error (.invalidDecision count) ↔
    ∃ decisions, answer = .ok ⟨decisions⟩ ∧ decisions.length ≠ 1 ∧ decisions.length = count
  failed : ∀ fault, result = .error (.backend fault) ↔ answer = .error fault

theorem result_permit_eq_ok_iff (run : Run Q Bool) :
    (permit run).result = .ok () ↔ run.result = .ok true := by
  rcases run with ⟨_ | _ | _, queries, events⟩ <;> simp [permit]

theorem result_permit_eq_error_iff (run : Run Q Bool) (error : AuthorizationError) :
    (permit run).result = .error error ↔
      run.result = .error error ∨ error = .denied ∧ run.result = .ok false := by
  rcases run with ⟨_ | _ | _, queries, events⟩ <;> simp [permit, eq_comm]

/-- A permitted or refused evaluation is settled by what the authorizer says to its query. -/
theorem settled_permit_evaluate (authorizer : Authorizer) (policy : Policy) (identity : Identity)
    (path : String) (resource : Resource) :
    Settled (authorizer (Query.of identity policy path resource))
      (permit (Verdict.evaluate authorizer policy identity path resource)).result := by
  have hresult : (Verdict.evaluate authorizer policy identity path resource).result =
      Verdict.settle (authorizer (Query.of identity policy path resource)) := rfl
  constructor
  · rw [result_permit_eq_ok_iff, hresult, Verdict.settle_eq_ok_iff]
  · rw [result_permit_eq_error_iff, hresult, Verdict.settle_eq_ok_iff,
      Verdict.settle_eq_error_iff]
    simp
  · intro count
    rw [result_permit_eq_error_iff, hresult, Verdict.settle_eq_error_iff]
    simp [eq_comm]
  · intro fault
    rw [result_permit_eq_error_iff, hresult, Verdict.settle_eq_error_iff]
    simp [eq_comm]

/-- A resource that cannot be built ends the authorization before the query. -/
theorem authorize_of_resource_error {middleware : Middleware} {call : Call}
    {error : ResourceError} (hallows : middleware.allows call = false)
    (hresource : middleware.resourceOf call = .error error) (authorizer : Authorizer) :
    middleware.authorize authorizer call = .fail (.resource error) := by
  rw [authorize, hallows, hresource]
  rfl

/-- A call that is not on the allow-list and has a resource is evaluated. -/
theorem authorize_of_resource {middleware : Middleware} {call : Call} {resource : Resource}
    (hallows : middleware.allows call = false)
    (hresource : middleware.resourceOf call = .ok resource) (authorizer : Authorizer) :
    middleware.authorize authorizer call =
      permit (Verdict.evaluate authorizer middleware.policy (middleware.identityOf call)
        (middleware.pathOf call) resource) := by
  rw [authorize, hallows, hresource]
  rfl

/-- The whole behaviour of a middleware, however it was built. The query names the policy that the
building started from, and its fields are the values resolved for the call. -/
theorem authorize_exact {policy : Policy} {steps : List Step} {middleware : Middleware}
    (built : build policy steps = .ok middleware) (authorizer : Authorizer) (call : Call) :
    (middleware.allows call = true →
      (middleware.authorize authorizer call).result = .ok () ∧
        (middleware.authorize authorizer call).queries = []) ∧
    (∀ error, middleware.allows call = false →
      middleware.resource.build call = .error error →
        (middleware.authorize authorizer call).result = .error (.resource error) ∧
          (middleware.authorize authorizer call).queries = []) ∧
    (∀ resource, middleware.allows call = false →
      middleware.resource.build call = .ok resource →
        ∃ query : Query,
          query.identity = middleware.identity.resolve call ∧
          query.path = middleware.path.elim
            (Policy.defaultPath policy.path policy.root call) (·.resolve call) ∧
          query.decisions = [policy.decision] ∧
          query.resource = resource ∧
          query.inst = some ⟨policy.name, policy.instanceLabel.getD policy.name⟩ ∧
          (middleware.authorize authorizer call).queries = [query] ∧
          Settled (authorizer query) (middleware.authorize authorizer call).result) ∧
    ((middleware.authorize authorizer call).result = .ok () →
      middleware.allows call = true ∨
        ∃ query decision, (middleware.authorize authorizer call).queries = [query] ∧
          authorizer query = .ok ⟨[decision]⟩ ∧ decision.holds = true) := by
  have hpolicy := policy_of_build built
  refine ⟨?_, ?_, ?_, ?_⟩
  · intro hallows
    rw [authorize_of_allows hallows]
    exact ⟨rfl, rfl⟩
  · intro error hallows hresource
    rw [authorize_of_resource_error hallows hresource]
    exact ⟨rfl, rfl⟩
  · intro resource hallows hresource
    refine ⟨Query.of (middleware.identityOf call) middleware.policy (middleware.pathOf call)
      resource, rfl, ?_, ?_, rfl, ?_, ?_, ?_⟩
    · rw [← hpolicy]
      cases hpath : middleware.path <;> simp [Query.of, pathOf, hpath]
    · rw [← hpolicy]
      rfl
    · rw [← hpolicy]
      rfl
    · rw [authorize_of_resource hallows hresource, queries_permit, Verdict.queries_evaluate]
    · rw [authorize_of_resource hallows hresource]
      exact settled_permit_evaluate authorizer middleware.policy _ _ resource
  · intro hok
    cases hallows : middleware.allows call with
    | true => exact Or.inl rfl
    | false =>
        cases hresource : middleware.resourceOf call with
        | error error =>
            rw [authorize_of_resource_error hallows hresource] at hok
            cases hok
        | ok resource =>
            rw [authorize_of_resource hallows hresource] at hok ⊢
            obtain ⟨decision, hanswer, hholds⟩ :=
              (settled_permit_evaluate authorizer middleware.policy _ _ resource).permitted.mp hok
            exact Or.inr ⟨_, decision, rfl, hanswer, hholds⟩

/-- A middleware with a context step asks about the call of a known subject, and lets it pass. -/
theorem authorize_exact_for_alice :
    let policy : Policy := ⟨"shop", "", "allowed", "app", some "shop-1"⟩
    let steps : List Step := [.allowedMethods ["GET"], .resourceContext "tenant" "tenant"]
    let call : Call := ⟨.http, "GET", "/products/42", none, .fields [("authorization", "alice")],
      some [("tenant", .string "acme")], none, none⟩
    let authorizer : Authorizer := fun _ => .ok (Answer.single "allowed" true)
    ∃ middleware, build policy steps = .ok middleware ∧ middleware.allows call = false ∧
      middleware.resource.build call = .ok [("tenant", .string "acme")] ∧
      ∃ query : Query,
        query.identity = ⟨"alice", .subject⟩ ∧ query.path = "app.GET.products.42" ∧
        query.decisions = ["allowed"] ∧ query.resource = [("tenant", .string "acme")] ∧
        query.inst = some ⟨"shop", "shop-1"⟩ ∧
        (middleware.authorize authorizer call).queries = [query] ∧
        (middleware.authorize authorizer call).result = .ok () := by
  intro policy steps call authorizer
  have built : build policy steps = .ok (Draft.ofSteps policy steps).middleware :=
    ((Draft.ofSteps policy steps).finish_eq_ok_iff _).mpr ⟨rfl, by decide, by decide, rfl⟩
  obtain ⟨query, hidentity, hpath, hdecisions, hresource, hinst, hqueries, hsettled⟩ :=
    (authorize_exact built authorizer call).2.2.1 [("tenant", .string "acme")] rfl rfl
  refine ⟨_, built, rfl, rfl, query, ?_, ?_, hdecisions, hresource, hinst, hqueries, ?_⟩
  · rw [hidentity]
    decide +kernel
  · rw [hpath]
    decide +kernel
  · exact hsettled.permitted.mpr ⟨⟨"allowed", true⟩, rfl, rfl⟩

end AccessControl.Middleware
