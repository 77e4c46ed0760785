import AccessControl.Proofs.Relation.Mirror
import AccessControl.Server.Guard

/-!
# Authorizations side by side

Two authorizations are the same to a backend and to the one who asks if they send the same queries
and have the same result. For a relation middleware that is a question about tuples: a telling
checker sends something for each tuple, and something else for another one, so a difference between
the tuples of two calls never stays hidden.
-/

namespace AccessControl.Server

variable {Q : Type}

structure SameAuthorization (run other : Run Q Unit) : Prop where
  queries : run.queries = other.queries
  result : run.result = other.result

theorem SameAuthorization.of_eq {run other : Run Q Unit} (h : run = other) :
    SameAuthorization run other := h ▸ ⟨rfl, rfl⟩

theorem run_enforce (run : Run Q Unit) (reject : AuthorizationError → Http.Response)
    (service : Service) (request : Http.Request) :
    (enforce run reject service request).run = run := by
  unfold enforce
  cases run.result <;> rfl

end AccessControl.Server

namespace AccessControl.Checker

variable {Q : Type}

/-- The queries of a checker tell which tuple it was asked for. No query shows whether a trace is
wanted, and no middleware wants one. -/
structure IsTelling (checker : Checker Q) : Prop where
  asks : ∀ tuple, (checker tuple).queries ≠ []
  tells : ∀ tuple other, tuple.trace = other.trace →
    (checker tuple).queries = (checker other).queries → tuple = other

theorem isTelling_directory (backend : Directory) : (directory backend).IsTelling where
  asks := fun _ => List.cons_ne_nil _ _
  tells := by
    intro tuple other _ hqueries
    rwa [queries_directory, queries_directory, List.singleton_inj] at hqueries

theorem isTelling_policy (authorizer : Authorizer) (asked : Policy) :
    (policy authorizer asked).IsTelling where
  asks := fun _ => List.cons_ne_nil _ _
  tells := by
    intro tuple other htrace hqueries
    rw [queries_policy, queries_policy, List.singleton_inj] at hqueries
    have hsame := eq_of_policyQuery_eq hqueries
    simp only [RelationTuple.mk.injEq, and_true] at hsame
    obtain ⟨htype, hid, hrelation, hsubjectType, hsubjectId⟩ := hsame
    cases tuple
    cases other
    subst htype hid hrelation hsubjectType hsubjectId htrace
    rfl

end AccessControl.Checker

namespace AccessControl.RelationMiddleware

variable {Q : Type} {m : RelationMiddleware} {checker : Checker Q} {call other : Call}

/-- Two calls that no filter accepts are authorized in the same way only if they have the same
tuple, or lack one for the same reason. -/
theorem tupleOf_eq_of_sameAuthorization (htelling : checker.IsTelling)
    (hcall : m.isFiltered call = false) (hother : m.isFiltered other = false)
    (hsame : Server.SameAuthorization (m.authorize checker call) (m.authorize checker other)) :
    m.tupleOf other = m.tupleOf call := by
  obtain ⟨hqueries, hresult⟩ := hsame
  -- The errors are the results, and the queries exclude that only one of the tuples is complete.
  cases htuple : m.tupleOf call with
  | error error =>
      rw [authorize_of_tuple_error hcall htuple] at hqueries hresult
      cases htuple' : m.tupleOf other with
      | error error' =>
          rw [authorize_of_tuple_error hother htuple'] at hresult
          cases hresult
          rfl
      | ok tuple' =>
          rw [queries_authorize_of_tuple hother htuple'] at hqueries
          exact absurd hqueries.symm (htelling.asks tuple')
  | ok tuple =>
      rw [queries_authorize_of_tuple hcall htuple] at hqueries
      cases htuple' : m.tupleOf other with
      | error error' =>
          rw [authorize_of_tuple_error hother htuple'] at hqueries
          exact absurd hqueries (htelling.asks tuple)
      | ok tuple' =>
          rw [queries_authorize_of_tuple hother htuple'] at hqueries
          have htrace : tuple.trace = tuple'.trace := by
            rw [eq_of_tupleOf htuple, eq_of_tupleOf htuple']
          rw [htelling.tells tuple tuple' htrace hqueries]

/-- Two calls that the filters treat alike are authorized in the same way exactly if these accept
them or the tuple is the same. -/
theorem sameAuthorization_iff (htelling : checker.IsTelling)
    (hfilters : m.isFiltered other = m.isFiltered call) :
    Server.SameAuthorization (m.authorize checker call) (m.authorize checker other) ↔
      m.isFiltered call = true ∨ m.tupleOf other = m.tupleOf call := by
  constructor
  · intro hsame
    cases hfiltered : m.isFiltered call with
    | true => exact .inl rfl
    | false =>
        exact .inr (tupleOf_eq_of_sameAuthorization htelling hfiltered
          (hfilters.trans hfiltered) hsame)
  · intro htuple
    exact .of_eq (authorize_congr hfilters htuple checker)

end AccessControl.RelationMiddleware
