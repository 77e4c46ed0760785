import AccessControl.Proofs.Identity.Resolve
import AccessControl.Proofs.Relation.Authorize

/-!
# A check policy in place of a directory

A check policy is asked a query where a directory is asked a tuple. The query holds the whole tuple
but for the wish for a trace, and `tupleOf` reads it back: the subject is the identity, and the
other texts stand in the resource. So tuples that differ give queries that differ, and for every
directory there is an authorizer that answers each query as the directory answers the tuple in it.

Such an authorizer mirrors the directory. Where the directory fails it may fail itself or answer
with a wrong number of decisions, since a middleware takes either for a refusal. What a middleware
says is then the same with the one and with the other.
-/

namespace AccessControl

namespace Checker

/-- The text under a key of a resource, empty if there is none. -/
def textAt (resource : Resource) (key : String) : String :=
  match resource.get? key with
  | some (.string text) => text
  | _ => ""

def tupleOf (query : Query) : RelationTuple where
  objectType := textAt query.resource "object_type"
  objectId := textAt query.resource "object_id"
  relation := textAt query.resource "relation"
  subjectType := textAt query.resource "subject_type"
  subjectId := query.identity.value
  trace := false

theorem tupleOf_policyQuery (asked : Policy) (tuple : RelationTuple) :
    tupleOf (policyQuery asked tuple) = { tuple with trace := false } := by
  have hsubject : (policyQuery asked tuple).identity.value = tuple.subjectId :=
    Identity.value_of (by decide) tuple.subjectId
  rw [tupleOf, hsubject]
  rfl

/-- Tuples with one query differ at most in the wish for a trace. -/
theorem eq_of_policyQuery_eq {asked : Policy} {tuple other : RelationTuple}
    (h : policyQuery asked tuple = policyQuery asked other) :
    ({ tuple with trace := false } : RelationTuple) = { other with trace := false } := by
  rw [← tupleOf_policyQuery asked tuple, h, tupleOf_policyQuery]

/-- An authorizer that answers the queries of a check policy as a directory answers their tuples.
Where the directory fails, it fails too or does not give one decision. -/
structure Mirrors (asked : Policy) (authorizer : Authorizer) (backend : Directory) : Prop where
  answers : ∀ tuple answer, tuple.trace = false → backend tuple = .ok answer →
    ∃ name, authorizer (policyQuery asked tuple) = .ok (Answer.single name answer.holds)
  fails : ∀ tuple fault, tuple.trace = false → backend tuple = .error fault →
    (∃ other, authorizer (policyQuery asked tuple) = .error other) ∨
      ∃ decisions, authorizer (policyQuery asked tuple) = .ok ⟨decisions⟩ ∧ decisions.length ≠ 1

def mirror (asked : Policy) (backend : Directory) : Authorizer := fun query =>
  (backend (tupleOf query)).map fun answer => Answer.single asked.decision answer.holds

theorem mirrors_mirror (asked : Policy) (backend : Directory) :
    Mirrors asked (mirror asked backend) backend := by
  have hmirror : ∀ tuple : RelationTuple, tuple.trace = false →
      mirror asked backend (policyQuery asked tuple) =
        (backend tuple).map fun answer => Answer.single asked.decision answer.holds := by
    rintro ⟨objectType, objectId, relation, subjectType, subjectId, trace⟩ rfl
    rw [mirror, tupleOf_policyQuery]
  constructor
  · intro tuple answer htrace hanswer
    exact ⟨asked.decision, by rw [hmirror tuple htrace, hanswer]; rfl⟩
  · intro tuple fault htrace hfault
    exact .inl ⟨fault, by rw [hmirror tuple htrace, hfault]; rfl⟩

/-- A mirrored tuple is confirmed by both checkers or by neither. -/
theorem Mirrors.result_policy_eq_iff {asked : Policy} {authorizer : Authorizer}
    {backend : Directory} (h : Mirrors asked authorizer backend) {tuple : RelationTuple}
    (htrace : tuple.trace = false) :
    (policy authorizer asked tuple).result = .ok true ↔
      (directory backend tuple).result = .ok true := by
  rw [(result_policy_cases authorizer asked tuple).1, (result_directory_cases backend tuple).1]
  cases hbackend : backend tuple with
  | ok answer =>
      obtain ⟨name, hanswer⟩ := h.answers tuple answer htrace hbackend
      simp [hanswer, Answer.single]
  | error fault =>
      rcases h.fails tuple fault htrace hbackend with ⟨other, hfault⟩ | ⟨decisions, hanswer, hcount⟩
      · simp [hfault]
      · simp only [hanswer, Except.ok.injEq, Answer.mk.injEq, reduceCtorEq, false_and, exists_false,
          iff_false, not_exists, not_and]
        rintro decision rfl
        exact absurd rfl hcount

end Checker

namespace RelationMiddleware

variable {Q R : Type}

theorem permit_congr {outcome other : Except AuthorizationError Bool}
    (h : outcome = .ok true ↔ other = .ok true) : permit outcome = permit other := by
  by_cases hother : other = .ok true
  · rw [hother, h.mpr hother]
  · rw [(permit_eq_denied_iff other).mpr hother,
      (permit_eq_denied_iff outcome).mpr fun houtcome => hother (h.mp houtcome)]

/-- What a middleware says rests on which tuples are confirmed, and it wants no traces. -/
theorem result_authorize_congr {checker : Checker Q} {other : Checker R}
    (h : ∀ tuple, tuple.trace = false →
      ((checker tuple).result = .ok true ↔ (other tuple).result = .ok true))
    (m : RelationMiddleware) (call : Call) :
    (m.authorize checker call).result = (m.authorize other call).result := by
  cases hfiltered : m.isFiltered call with
  | true => rw [authorize_of_filtered hfiltered, authorize_of_filtered hfiltered]
  | false =>
      cases htuple : m.tupleOf call with
      | error error =>
          rw [authorize_of_tuple_error hfiltered htuple, authorize_of_tuple_error hfiltered htuple]
          rfl
      | ok tuple =>
          have htrace : tuple.trace = false := by rw [eq_of_tupleOf htuple]
          rw [result_authorize_of_tuple hfiltered htuple,
            result_authorize_of_tuple hfiltered htuple, permit_congr (h tuple htrace)]

/-- The same calls are checked by a policy and by a directory, and for the same tuples. -/
theorem queries_authorize_policy (m : RelationMiddleware) (authorizer : Authorizer)
    (asked : Policy) (backend : Directory) (call : Call) :
    (m.authorize (.policy authorizer asked) call).queries =
      (m.authorize (.directory backend) call).queries.map (Checker.policyQuery asked) := by
  cases hfiltered : m.isFiltered call with
  | true =>
      rw [authorize_of_filtered hfiltered, authorize_of_filtered hfiltered]
      rfl
  | false =>
      cases htuple : m.tupleOf call with
      | error error =>
          rw [authorize_of_tuple_error hfiltered htuple, authorize_of_tuple_error hfiltered htuple]
          rfl
      | ok tuple =>
          rw [queries_authorize_of_tuple hfiltered htuple,
            queries_authorize_of_tuple hfiltered htuple]
          rfl

end RelationMiddleware

/-- A check policy is asked different queries for tuples that differ in any text, those with an
empty subject included. With an authorizer that mirrors a directory, every middleware says of every
call what it says with the directory, after the queries of the same tuples; and every directory can
be mirrored. -/
theorem policy_refines_directory (asked : Policy) :
    (∀ (authorizer : Authorizer) (tuple other : RelationTuple),
      tuple.objectType ≠ other.objectType ∨ tuple.objectId ≠ other.objectId ∨
        tuple.relation ≠ other.relation ∨ tuple.subjectType ≠ other.subjectType ∨
        tuple.subjectId ≠ other.subjectId →
      ∃ query otherQuery, (Checker.policy authorizer asked tuple).queries = [query] ∧
        (Checker.policy authorizer asked other).queries = [otherQuery] ∧ query ≠ otherQuery) ∧
    (∀ (authorizer : Authorizer) (backend : Directory), Checker.Mirrors asked authorizer backend →
      ∀ (m : RelationMiddleware) (call : Call),
        (m.authorize (.policy authorizer asked) call).result =
          (m.authorize (.directory backend) call).result ∧
        (m.authorize (.policy authorizer asked) call).queries =
          (m.authorize (.directory backend) call).queries.map (Checker.policyQuery asked)) ∧
    ∀ backend : Directory, ∃ authorizer, Checker.Mirrors asked authorizer backend := by
  refine ⟨?_, ?_, ?_⟩
  · intro authorizer tuple other hdiffer
    refine ⟨_, _, Checker.queries_policy authorizer asked tuple,
      Checker.queries_policy authorizer asked other, ?_⟩
    intro hqueries
    have hsame := Checker.eq_of_policyQuery_eq hqueries
    simp only [RelationTuple.mk.injEq, and_true] at hsame
    obtain ⟨htype, hid, hrelation, hsubjectType, hsubjectId⟩ := hsame
    rcases hdiffer with h | h | h | h | h
    · exact h htype
    · exact h hid
    · exact h hrelation
    · exact h hsubjectType
    · exact h hsubjectId
  · intro authorizer backend hmirrors m call
    refine ⟨?_, m.queries_authorize_policy authorizer asked backend call⟩
    exact RelationMiddleware.result_authorize_congr
      (fun _ htrace => hmirrors.result_policy_eq_iff htrace) m call
  · intro backend
    exact ⟨Checker.mirror asked backend, Checker.mirrors_mirror asked backend⟩

end AccessControl
