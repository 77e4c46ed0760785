import AccessControl.Proofs.Middleware.BuiltIn

/-!
# What a middleware does not look at

Two calls are alike to a middleware if they differ only in headers, context values and message
fields that its configuration does not name. A middleware of built-in steps whose masks have no
wildcard asks the same for both, and decides both in the same way if the answers are the same. So
nothing that is not named reaches the authorizer, and nothing else has an influence on the result,
not even on the error that a missing field causes.
-/

namespace AccessControl.Middleware

/-- Two calls that agree in all that a middleware is configured to look at. -/
structure Alike (middleware : Middleware) (call other : Call) : Prop where
  kind : call.kind = other.kind
  method : call.method = other.method
  path : call.path = other.path
  host : call.host = other.host
  template : call.template? = other.template?
  params : call.pathParams = other.pathParams
  headers : ∀ name ∈ middleware.identity.headerNames, call.header? name = other.header? name
  context : ∀ key ∈ middleware.identity.contextKeys ++ middleware.resource.contextKeys,
    call.contextValue? key = other.contextValue? key
  messages : Resource.MessagesAgree middleware.resource.masks call.message other.message

section

variable {middleware : Middleware} {call other : Call}

theorem Alike.routePath_eq (h : middleware.Alike call other) :
    call.routePath = other.routePath := by
  rw [Call.routePath_eq_getD, Call.routePath_eq_getD, h.template, h.path]

theorem Alike.identityOf_eq (h : middleware.Alike call other) (hbuiltIn : middleware.IsBuiltIn) :
    middleware.identityOf call = middleware.identityOf other :=
  Identity.Rules.resolve_congr hbuiltIn.identity h.host h.headers
    fun key hkey => h.context key (List.mem_append_left _ hkey)

theorem Alike.resourceOf_eq (h : middleware.Alike call other) (hbuiltIn : middleware.IsBuiltIn)
    (hmasks : ∀ mask ∈ middleware.resource.masks, mask.wildcard = false) :
    middleware.resourceOf call = middleware.resourceOf other := by
  refine Resource.Chain.build_congr hbuiltIn.resource ?_
  intro mapper hmapper
  have hsubset : mapper.masks ⊆ middleware.resource.masks :=
    fun mask hmask => List.mem_flatMap.mpr ⟨mapper, hmapper, hmask⟩
  refine Resource.Mapper.extract_congr (fun mask hmask => hmasks mask (hsubset hmask)) h.method
    (fun _ => h.params) ?_ (h.messages.mono hsubset)
  intro key hkey
  exact h.context key (List.mem_append_right _ (List.mem_flatMap.mpr ⟨mapper, hmapper, hkey⟩))

theorem Alike.authorize_eq (h : middleware.Alike call other) (hbuiltIn : middleware.IsBuiltIn)
    (hmasks : ∀ mask ∈ middleware.resource.masks, mask.wildcard = false)
    (authorizer : Authorizer) :
    middleware.authorize authorizer call = middleware.authorize authorizer other :=
  authorize_congr (middleware.allows_congr h.kind h.method) (h.identityOf_eq hbuiltIn)
    (pathOf_congr hbuiltIn.path h.kind h.method h.routePath_eq) (h.resourceOf_eq hbuiltIn hmasks)
    authorizer

end

/-- The authorizer has no say in what it is asked, and only its answers to that count. -/
theorem authorize_of_answers (middleware : Middleware) (call : Call)
    (authorizer authorizer' : Authorizer) :
    (middleware.authorize authorizer call).queries =
        (middleware.authorize authorizer' call).queries ∧
      ((∀ query ∈ (middleware.authorize authorizer call).queries,
          authorizer query = authorizer' query) →
        (middleware.authorize authorizer call).result =
          (middleware.authorize authorizer' call).result) := by
  cases hallows : middleware.allows call with
  | true =>
      rw [authorize_of_allows hallows, authorize_of_allows hallows]
      exact ⟨rfl, fun _ => rfl⟩
  | false =>
      cases hresource : middleware.resourceOf call with
      | error error =>
          rw [authorize_of_resource_error hallows hresource,
            authorize_of_resource_error hallows hresource]
          exact ⟨rfl, fun _ => rfl⟩
      | ok resource =>
          rw [authorize_of_resource hallows hresource, authorize_of_resource hallows hresource]
          refine ⟨rfl, ?_⟩
          intro hanswers
          have hanswer := hanswers _ List.mem_cons_self
          simp only [permit, Verdict.evaluate, hanswer]

/-- A middleware of built-in steps, without a wildcard among its masks, asks the same for two calls
that are alike to it, whoever answers, and gives both the same result if the answers to what it
asks are the same. -/
theorem authorize_noninterference {policy : Policy} {steps : List Step} {middleware : Middleware}
    (built : build policy steps = .ok middleware) (hsteps : ∀ s ∈ steps, s.IsBuiltIn)
    (hmasks : ∀ mask ∈ middleware.resource.masks, mask.wildcard = false) {call other : Call}
    (h : middleware.Alike call other) (authorizer authorizer' : Authorizer) :
    (middleware.authorize authorizer call).queries =
        (middleware.authorize authorizer' other).queries ∧
      ((∀ query ∈ (middleware.authorize authorizer call).queries,
          authorizer query = authorizer' query) →
        (middleware.authorize authorizer call).result =
          (middleware.authorize authorizer' other).result) := by
  have hbuiltIn := isBuiltIn_of_build built hsteps
  rw [← h.authorize_eq hbuiltIn hmasks]
  exact middleware.authorize_of_answers call authorizer authorizer'

/-- Two messages that differ in an unmasked price, on calls that differ in an unnamed header and an
unnamed context value. One masked path leads to a value and one is cut short by a null. -/
theorem authorize_noninterference_of_price :
    let policy := Policy.new "shop" "allowed"
    let user : Identity.Rules := { Identity.Rules.empty with source := some (.metadata "x-user") }
    let steps : List Step := [.identity user, .resourceFields ["product.type", "owner.city"],
      .resourceContext "tenant" "tenant"]
    let message : Int → Json := fun price => .object [("owner", .null),
      ("product", .object [("price", Json.ofInt price), ("type", .string "book")])]
    let call : Call := (Call.ofDecoded "/shop.Products/Get" [("x-user", "alice"), ("x-trace", "1")]
      ⟨some [("debug", .bool true), ("tenant", .string "acme")], none⟩).withMessage (message 3)
    let other : Call := (Call.ofDecoded "/shop.Products/Get" [("x-user", "alice")]
      ⟨some [("tenant", .string "acme")], none⟩).withMessage (message 7)
    let authorizer : Authorizer := fun _ => .ok (Answer.single "allowed" true)
    ∃ middleware, build policy steps = .ok middleware ∧ middleware.Alike call other ∧
      (middleware.authorize authorizer call).queries =
        (middleware.authorize authorizer other).queries ∧
      (middleware.authorize authorizer call).queries ≠ [] ∧
      (middleware.authorize authorizer call).result =
        (middleware.authorize authorizer other).result := by
  intro policy user steps message call other authorizer
  have built : build policy steps = .ok (Draft.ofSteps policy steps).middleware := by
    rw [build, Draft.finish_eq_ok_iff]
    exact ⟨List.isEmpty_iff.mp (by decide +kernel), by decide, by decide, rfl⟩
  have hsteps : ∀ s ∈ steps, s.IsBuiltIn := by
    simp [steps, Step.IsBuiltIn, user, Identity.Rules.empty]
  have hmasks : (Draft.ofSteps policy steps).middleware.resource.masks =
      [⟨[["owner", "city"], ["product", "type"]], false⟩] := by
    decide +kernel
  have hkeys : (Draft.ofSteps policy steps).middleware.identity.contextKeys ++
      (Draft.ofSteps policy steps).middleware.resource.contextKeys = ["tenant"] := by
    decide +kernel
  have halike : (Draft.ofSteps policy steps).middleware.Alike call other := by
    refine ⟨rfl, rfl, rfl, rfl, rfl, rfl, by decide +kernel, ?_, ?_⟩
    · rw [hkeys, List.forall_mem_singleton]
      rfl
    · rw [hmasks]
      refine List.forall_mem_singleton.mpr ⟨rfl, fun _ => ?_⟩
      rw [List.forall_mem_cons, List.forall_mem_singleton]
      exact ⟨rfl, rfl⟩
  obtain ⟨hqueries, hresult⟩ := authorize_noninterference built hsteps (by simp [hmasks]) halike
    authorizer authorizer
  have hasks : ((Draft.ofSteps policy steps).middleware.authorize authorizer call).queries.length =
      1 := by
    decide +kernel
  exact ⟨_, built, halike, hqueries, List.ne_nil_of_length_eq_add_one hasks,
    hresult fun _ _ => rfl⟩

end AccessControl.Middleware
