import AccessControl.Proofs.Identity.Resolve
import AccessControl.Proofs.Identity.Token
import AccessControl.Proofs.Middleware.Authorize
import AccessControl.Proofs.Relation.Authorize

/-!
# Identities in queries

An authorizer is asked in two places: by a policy middleware, about the identity that its rules
resolve, and by a check policy, about the subject of a relation tuple. Both kinds of identities are
normalized on their way, so no query ever names a kind without a text or a text without a kind.
-/

namespace AccessControl

/-- A policy middleware asks about the identity of the call, in one query at most. -/
theorem Middleware.identity_of_mem_queries {middleware : Middleware} {authorizer : Authorizer}
    {call : Call} {query : Query} (h : query ∈ (middleware.authorize authorizer call).queries) :
    query.identity = middleware.identity.resolve call := by
  cases hallows : middleware.allows call with
  | true =>
      rw [authorize_of_allows hallows] at h
      cases h
  | false =>
      cases hresource : middleware.resourceOf call with
      | error error =>
          rw [authorize_of_resource_error hallows hresource] at h
          cases h
      | ok resource =>
          rw [authorize_of_resource hallows hresource, queries_permit, Verdict.queries_evaluate,
            List.mem_singleton] at h
          rw [h]
          rfl

/-- The kind that is inferred for a text says what its value is. -/
theorem Identity.inferred_kind_iff (fromAuthorization : Bool) (raw : String) :
    let identity := ofText none fromAuthorization raw
    (identity.kind = .anonymous ↔ identity.value = "") ∧
      (identity.kind = .jwt ↔ Token.IsToken identity.value) ∧
      (identity.kind = .subject ↔ identity.value ≠ "" ∧ ¬Token.IsToken identity.value) := by
  intro identity
  have hkind := kind_ofText_none fromAuthorization raw
  have hblank : Token.looksLike "" = false := rfl
  rw [← Token.looksLike_eq_true_iff]
  by_cases hvalue : identity.value = ""
  · have hanonymous : identity.kind = .anonymous := hkind.trans (if_pos hvalue)
    simp [hanonymous, hvalue, hblank]
  · have hother : identity.kind = if Token.looksLike identity.value then .jwt else .subject :=
      hkind.trans (if_neg hvalue)
    rw [hother]
    cases Token.looksLike identity.value <;> simp [hvalue]

/-- The subject of a tuple may be empty, and is then an unknown caller. -/
theorem Checker.wellFormed_identity_policyQuery (policy : Policy) (tuple : RelationTuple) :
    (policyQuery policy tuple).identity.WellFormed :=
  Identity.wellFormed_of .subject tuple.subjectId

theorem RelationMiddleware.exists_tuple_of_mem_queries {m : RelationMiddleware}
    {authorizer : Authorizer} {policy : Policy} {call : Call} {query : Query}
    (h : query ∈ (m.authorize (.policy authorizer policy) call).queries) :
    ∃ tuple, m.tupleOf call = .ok tuple ∧ query = Checker.policyQuery policy tuple := by
  cases hfiltered : m.isFiltered call with
  | true =>
      rw [authorize_of_filtered hfiltered] at h
      cases h
  | false =>
      cases htuple : m.tupleOf call with
      | error error =>
          rw [authorize_of_tuple_error hfiltered htuple] at h
          cases h
      | ok tuple =>
          rw [queries_authorize_of_tuple hfiltered htuple, Checker.queries_policy,
            List.mem_singleton] at h
          exact ⟨tuple, rfl, h⟩

/-- Every identity that an authorizer is asked about is anonymous exactly if it has no text, whether
it was resolved for a call, by a mapper even, or is the subject of a tuple. Rules without a mapper
resolve to the kind that they declare or to an unknown caller, and if they declare none, to a token
where the text is one by its header and to a subject where it is any other. -/
theorem sent_identities_wellFormed :
    (∀ (middleware : Middleware) (authorizer : Authorizer) (call : Call),
      ∀ query ∈ (middleware.authorize authorizer call).queries,
        query.identity = middleware.identity.resolve call ∧ query.identity.WellFormed) ∧
    (∀ (authorizer : Authorizer) (policy : Policy) (tuple : RelationTuple),
      ∃ query, (Checker.policy authorizer policy tuple).queries = [query] ∧
        query.identity.value = tuple.subjectId ∧ query.identity.WellFormed) ∧
    (∀ (m : RelationMiddleware) (authorizer : Authorizer) (policy : Policy) (call : Call),
      ∀ query ∈ (m.authorize (.policy authorizer policy) call).queries,
        query.identity.WellFormed) ∧
    ∀ (rules : Identity.Rules) (call : Call), rules.mapper = none →
      let identity := rules.resolve call
      (∀ kind, rules.kind = some kind →
        identity.kind = kind ∨ identity.kind = .anonymous) ∧
      (rules.kind = none →
        (identity.kind = .anonymous ↔ identity.value = "") ∧
        (identity.kind = .jwt ↔ Token.IsToken identity.value) ∧
        (identity.kind = .subject ↔ identity.value ≠ "" ∧ ¬Token.IsToken identity.value)) := by
  refine ⟨?_, ?_, ?_, ?_⟩
  · intro middleware authorizer call query hquery
    have hidentity := Middleware.identity_of_mem_queries hquery
    refine ⟨hidentity, ?_⟩
    rw [hidentity]
    exact middleware.identity.wellFormed_resolve call
  · intro authorizer policy tuple
    exact ⟨_, Checker.queries_policy authorizer policy tuple,
      Identity.value_of (by simp) tuple.subjectId,
      Checker.wellFormed_identity_policyQuery policy tuple⟩
  · intro m authorizer policy call query hquery
    obtain ⟨tuple, -, rfl⟩ := RelationMiddleware.exists_tuple_of_mem_queries hquery
    exact Checker.wellFormed_identity_policyQuery policy tuple
  · intro rules call hmapper identity
    constructor
    · intro kind hkind
      by_cases hanonymous : rules.kind = some .anonymous
      · have hidentity : identity = Identity.unknown :=
          Identity.Rules.resolve_of_anonymous hmapper hanonymous call
        rw [hidentity]
        exact .inr rfl
      · have hidentity : identity = _ :=
          Identity.Rules.resolve_of_text hmapper hanonymous call
        rw [hidentity, hkind]
        exact Identity.kind_ofText_some kind _ _
    · intro hkind
      have hidentity : identity = _ :=
        Identity.Rules.resolve_of_text hmapper (by simp [hkind]) call
      rw [hidentity, hkind]
      exact Identity.inferred_kind_iff _ _

end AccessControl
