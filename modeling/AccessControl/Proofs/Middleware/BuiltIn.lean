import AccessControl.Proofs.Identity.Rules
import AccessControl.Proofs.Middleware.Authorize
import AccessControl.Proofs.Resource.Mapper

/-!
# Middlewares without functions of their own

Three kinds of steps can bring in a function that looks at calls as it likes: identity rules with a
mapper, a path mapper and a resource mapper. A middleware built without them looks at a call through
the library's own rules only, and what each of the four parts of an authorization depends on can be
said: the allow-list on transport and method, the identity on what its rules name, the path on
method and route, the resource on what its mappers extract.
-/

namespace AccessControl

namespace Call

def template? (call : Call) : Option String := call.route.bind RouteMatch.template

theorem routePath_eq_getD (call : Call) : call.routePath = call.template?.getD call.path := by
  unfold routePath template?
  cases call.route with
  | none => rfl
  | some route =>
      rcases route with ⟨template, params⟩
      cases template <;> rfl

end Call

namespace Middleware

/-- Whether a step brings in no function of its own. -/
def Step.IsBuiltIn : Step → Prop
  | .identity rules => rules.mapper = none
  | .pathMapper _ => False
  | .resourceMapper _ => False
  | _ => True

/-- A middleware all of whose rules are the library's own. -/
structure IsBuiltIn (middleware : Middleware) : Prop where
  identity : middleware.identity.mapper = none
  path : ∀ f, middleware.path ≠ some (.mapper f)
  resource : ∀ mapper ∈ middleware.resource, mapper.IsBuiltIn

theorem Step.Adds.isBuiltIn {s : Step} {mapper : Resource.Mapper} (h : s.Adds mapper)
    (hs : s.IsBuiltIn) : mapper.IsBuiltIn := by
  cases h with
  | custom => exact hs
  | _ => trivial

theorem Draft.isBuiltIn_step {draft : Draft} (h : draft.middleware.IsBuiltIn) {s : Step}
    (hs : s.IsBuiltIn) : (draft.step s).middleware.IsBuiltIn := by
  rw [step_eq]
  refine ⟨?_, fun f => ?_, fun mapper hmapper => ?_⟩
  · cases s with
    | identity rules => exact hs
    | _ => exact h.identity
  · cases s with
    | pathFromUrl root => nofun
    | pathFromMethod root => nofun
    | pathMapper f => exact absurd hs id
    | _ => exact h.path f
  · by_cases hreset : s.isReset = true
    · simp [hreset] at hmapper
    · rw [if_neg hreset] at hmapper
      rcases List.mem_append.mp hmapper with hmapper | hmapper
      · exact h.resource mapper hmapper
      · exact (Step.mapper?_eq_some_iff.mp (Option.mem_toList.mp hmapper)).isBuiltIn hs

theorem Draft.isBuiltIn_start (policy : Policy) : (Draft.start policy).middleware.IsBuiltIn := by
  refine ⟨rfl, by simp [start], ?_⟩
  intro mapper hmapper
  rw [List.mem_singleton.mp hmapper]
  trivial

/-- Built-in steps build a built-in middleware. -/
theorem isBuiltIn_of_build {policy : Policy} {steps : List Step} {middleware : Middleware}
    (built : build policy steps = .ok middleware) (hsteps : ∀ s ∈ steps, s.IsBuiltIn) :
    middleware.IsBuiltIn :=
  of_build built (Draft.isBuiltIn_start policy)
    fun _ hdraft s hs => Draft.isBuiltIn_step hdraft (hsteps s hs)

/-- The path parameters are copied first, since no step adds the mapper that does it. -/
theorem Draft.pathParams_notMem_tail_step {draft : Draft}
    (h : .pathParams ∉ draft.middleware.resource.tail) (s : Step) :
    .pathParams ∉ (draft.step s).middleware.resource.tail := by
  have hadded : .pathParams ∉ s.mapper?.toList := by
    intro hmem
    cases Step.mapper?_eq_some_iff.mp (Option.mem_toList.mp hmem)
  rw [step_eq]
  by_cases hreset : s.isReset = true
  · simp [hreset]
  · rw [if_neg hreset]
    cases hchain : draft.middleware.resource with
    | nil => exact fun hmem => hadded (List.mem_of_mem_tail hmem)
    | cons first rest =>
        rw [hchain] at h
        exact fun hmem => (List.mem_append.mp hmem).elim h hadded

theorem pathParams_notMem_tail_of_build {policy : Policy} {steps : List Step}
    {middleware : Middleware} (built : build policy steps = .ok middleware) :
    .pathParams ∉ middleware.resource.tail := by
  have hstart : .pathParams ∉ (Draft.start policy).middleware.resource.tail := List.not_mem_nil
  refine of_build (P := fun built => .pathParams ∉ built.resource.tail) built hstart ?_
  exact fun draft hdraft s _ => Draft.pathParams_notMem_tail_step hdraft s

theorem allows_congr (middleware : Middleware) {call other : Call} (hkind : call.kind = other.kind)
    (hmethod : call.method = other.method) : middleware.allows call = middleware.allows other := by
  rw [allows, allows, hkind, hmethod]

/-- Without a mapper the path comes from the transport, the method and the route. -/
theorem pathOf_congr {middleware : Middleware} (hpath : ∀ f, middleware.path ≠ some (.mapper f))
    {call other : Call} (hkind : call.kind = other.kind) (hmethod : call.method = other.method)
    (hroute : call.routePath = other.routePath) :
    middleware.pathOf call = middleware.pathOf other := by
  cases hsource : middleware.path with
  | none =>
      simp only [pathOf, hsource, Policy.defaultPath]
      rw [hkind, hmethod, hroute]
  | some source =>
      simp only [pathOf, hsource]
      cases source with
      | fixed path => rfl
      | url root => rw [Policy.PathSource.resolve, Policy.PathSource.resolve, hmethod, hroute]
      | method root => rw [Policy.PathSource.resolve, Policy.PathSource.resolve, hmethod]
      | mapper f => exact absurd hsource (hpath f)

/-- Calls for which the four parts come out alike are authorized alike. -/
theorem authorize_congr {middleware : Middleware} {call other : Call}
    (hallows : middleware.allows call = middleware.allows other)
    (hidentity : middleware.identityOf call = middleware.identityOf other)
    (hpath : middleware.pathOf call = middleware.pathOf other)
    (hresource : middleware.resourceOf call = middleware.resourceOf other)
    (authorizer : Authorizer) :
    middleware.authorize authorizer call = middleware.authorize authorizer other := by
  rw [authorize, authorize, hallows, hidentity, hpath, hresource]

/-- What was asked and the result tell which resource a call has, or why it has none. -/
theorem resourceOf_eq_of_authorize {middleware : Middleware} {call other : Call}
    (hallows : middleware.allows call = false) (hallows' : middleware.allows other = false)
    {authorizer : Authorizer}
    (hqueries : (middleware.authorize authorizer call).queries =
      (middleware.authorize authorizer other).queries)
    (hresult : (middleware.authorize authorizer call).result =
      (middleware.authorize authorizer other).result) :
    middleware.resourceOf call = middleware.resourceOf other := by
  cases hresource : middleware.resourceOf call with
  | error error =>
      rw [authorize_of_resource_error hallows hresource] at hqueries hresult
      cases hother : middleware.resourceOf other with
      | error error' =>
          rw [authorize_of_resource_error hallows' hother] at hresult
          cases hresult
          rfl
      | ok resource =>
          rw [authorize_of_resource hallows' hother] at hqueries
          cases hqueries
  | ok resource =>
      rw [authorize_of_resource hallows hresource] at hqueries
      cases hother : middleware.resourceOf other with
      | error error =>
          rw [authorize_of_resource_error hallows' hother] at hqueries
          cases hqueries
      | ok resource' =>
          rw [authorize_of_resource hallows' hother, queries_permit, queries_permit,
            Verdict.queries_evaluate, Verdict.queries_evaluate, List.singleton_inj] at hqueries
          exact congrArg Except.ok (congrArg Query.resource hqueries)

end Middleware

end AccessControl
