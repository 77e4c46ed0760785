import AccessControl.Proofs.Relation.Builder
import AccessControl.Proofs.Relation.Tuple
import AccessControl.Proofs.Verdict

/-!
# What the relation middleware does with a call

A filtered call passes and an incomplete tuple is an error, both without a check. Every other call
is checked once, and only a positive outcome permits it. `noting` makes the checks of a run
visible for every checker, whatever queries it sends itself. More filters, in whatever order, let
more calls through and change nothing else.
-/

namespace AccessControl

/-- The checker that notes each tuple it is asked for, with the queries that this took. -/
def Checker.noting {Q : Type} (checker : Checker Q) : Checker (RelationTuple × List Q) :=
  fun tuple =>
    ⟨(checker tuple).result, [(tuple, (checker tuple).queries)], (checker tuple).events⟩

/-- A directory confirms a tuple, or it denies it, or it fails. -/
theorem Checker.result_directory_cases (backend : Directory) (tuple : RelationTuple) :
    ((Checker.directory backend tuple).result = .ok true ↔
      ∃ answer, backend tuple = .ok answer ∧ answer.holds = true) ∧
    ((Checker.directory backend tuple).result ≠ .ok true ↔
      (∃ fault, backend tuple = .error fault) ∨
        ∃ answer, backend tuple = .ok answer ∧ answer.holds = false) := by
  unfold Checker.directory
  cases backend tuple with
  | error fault => simp
  | ok answer => simp

def Checker.policyQuery (policy : Policy) (tuple : RelationTuple) : Query :=
  Query.of (Identity.subject tuple.subjectId) policy (policyPath policy) (resourceOf tuple)

theorem Checker.queries_policy (authorizer : Authorizer) (asked : Policy) (tuple : RelationTuple) :
    (policy authorizer asked tuple).queries = [policyQuery asked tuple] := rfl

/-- A check policy confirms a tuple by one positive decision. One negative decision, any other
number of decisions and a failure do not confirm it. -/
theorem Checker.result_policy_cases (authorizer : Authorizer) (policy : Policy)
    (tuple : RelationTuple) :
    ((Checker.policy authorizer policy tuple).result = .ok true ↔
      ∃ decision, authorizer (policyQuery policy tuple) = .ok ⟨[decision]⟩ ∧
        decision.holds = true) ∧
    ((Checker.policy authorizer policy tuple).result ≠ .ok true ↔
      (∃ fault, authorizer (policyQuery policy tuple) = .error fault) ∨
        (∃ decisions, authorizer (policyQuery policy tuple) = .ok ⟨decisions⟩ ∧
          decisions.length ≠ 1) ∨
        ∃ decision, authorizer (policyQuery policy tuple) = .ok ⟨[decision]⟩ ∧
          decision.holds = false) := by
  have hresult : (Checker.policy authorizer policy tuple).result =
      Verdict.settle (authorizer (policyQuery policy tuple)) := rfl
  rw [hresult]
  refine ⟨Verdict.settle_eq_ok_iff _ true, ?_⟩
  rw [ne_eq, Verdict.settle_eq_ok_iff]
  cases authorizer (policyQuery policy tuple) with
  | error fault => simp
  | ok answer =>
      rcases answer with ⟨decisions⟩
      match decisions with
      | [] => simp
      | [decision] => simp
      | first :: second :: rest => simp

namespace RelationMiddleware

variable {Q : Type}

theorem permit_eq_ok_iff (outcome : Except AuthorizationError Bool) :
    permit outcome = .ok () ↔ outcome = .ok true := by
  rcases outcome with _ | _ | _ <;> simp [permit]

/-- Whatever is not a positive outcome is a refusal, and never another error. -/
theorem permit_eq_denied_iff (outcome : Except AuthorizationError Bool) :
    permit outcome = .error .denied ↔ outcome ≠ .ok true := by
  rcases outcome with _ | _ | _ <;> simp [permit]

theorem authorize_of_tuple_error {m : RelationMiddleware} {call : Call}
    {error : AuthorizationError} (hfiltered : m.isFiltered call = false)
    (htuple : m.tupleOf call = .error error) (checker : Checker Q) :
    m.authorize checker call = .fail error := by
  rw [authorize, hfiltered, htuple]
  rfl

theorem result_authorize_of_tuple {m : RelationMiddleware} {call : Call} {tuple : RelationTuple}
    (hfiltered : m.isFiltered call = false) (htuple : m.tupleOf call = .ok tuple)
    (checker : Checker Q) :
    (m.authorize checker call).result = permit (checker tuple).result := by
  rw [authorize, hfiltered, htuple]
  rfl

theorem queries_authorize_of_tuple {m : RelationMiddleware} {call : Call} {tuple : RelationTuple}
    (hfiltered : m.isFiltered call = false) (htuple : m.tupleOf call = .ok tuple)
    (checker : Checker Q) :
    (m.authorize checker call).queries = (checker tuple).queries := by
  rw [authorize, hfiltered, htuple]
  rfl

/-- A call is authorized by what the filters and the tuple say. -/
theorem authorize_congr {m : RelationMiddleware} {call other : Call}
    (hfilters : m.isFiltered other = m.isFiltered call)
    (htuple : m.isFiltered call = true ∨ m.tupleOf other = m.tupleOf call) (checker : Checker Q) :
    m.authorize checker call = m.authorize checker other := by
  rcases htuple with hfiltered | htuple
  · rw [authorize_of_filtered hfiltered, authorize_of_filtered (hfilters.trans hfiltered)]
  · rw [authorize, authorize, hfilters, htuple]

/-- Noting the checks of a run leaves its result and its queries as they are. -/
theorem authorize_noting (m : RelationMiddleware) (checker : Checker Q) (call : Call) :
    (m.authorize checker.noting call).result = (m.authorize checker call).result ∧
      (m.authorize checker.noting call).queries.flatMap (·.2) =
        (m.authorize checker call).queries := by
  cases hfiltered : m.isFiltered call with
  | true =>
      rw [authorize_of_filtered hfiltered, authorize_of_filtered hfiltered]
      exact ⟨rfl, rfl⟩
  | false =>
      cases htuple : m.tupleOf call with
      | error error =>
          rw [authorize_of_tuple_error hfiltered htuple, authorize_of_tuple_error hfiltered htuple]
          exact ⟨rfl, rfl⟩
      | ok tuple =>
          rw [result_authorize_of_tuple hfiltered htuple,
            result_authorize_of_tuple hfiltered htuple,
            queries_authorize_of_tuple hfiltered htuple,
            queries_authorize_of_tuple hfiltered htuple]
          exact ⟨rfl, List.append_nil _⟩

/-- Steps that settle the same tuple and lose no filter let through what was let through. -/
theorem authorize_eq_ok_of_filters_subset {steps other : List Step} {checker : Checker Q}
    {call : Call} (hsettings : settingsOf steps = settingsOf other)
    (hfilters : filtersOf steps ⊆ filtersOf other)
    (hok : ((ofSteps steps).authorize checker call).result = .ok ()) :
    ((ofSteps other).authorize checker call).result = .ok () := by
  cases hother : (ofSteps other).isFiltered call with
  | true => rw [authorize_of_filtered hother]
  | false =>
      have hfiltered : (ofSteps steps).isFiltered call = false := by
        rw [Bool.eq_false_iff, ne_eq, isFiltered_ofSteps_iff] at hother ⊢
        rintro ⟨f, hf, haccepts⟩
        exact hother ⟨f, hfilters hf, haccepts⟩
      have hsame := tupleOf_ofSteps_congr hsettings call
      cases htuple : (ofSteps steps).tupleOf call with
      | error error =>
          rw [authorize_of_tuple_error hfiltered htuple] at hok
          cases hok
      | ok tuple =>
          rw [result_authorize_of_tuple hfiltered htuple] at hok
          rw [result_authorize_of_tuple hother (hsame.symm.trans htuple)]
          exact hok

/-- A result that is permission under one condition and a refusal under another. -/
structure Decides (result : Except AuthorizationError Unit) (yes no : Prop) : Prop where
  permitted_iff : result = .ok () ↔ yes
  refused_iff : result = .error .denied ↔ no

/-- A checked call is decided by the outcome of the check, and in no third way. -/
theorem decides_authorize {m : RelationMiddleware} {call : Call} {tuple : RelationTuple}
    (hfiltered : m.isFiltered call = false) (htuple : m.tupleOf call = .ok tuple)
    {checker : Checker Q} {yes no : Prop} (hyes : (checker tuple).result = .ok true ↔ yes)
    (hno : (checker tuple).result ≠ .ok true ↔ no) :
    Decides (m.authorize checker call).result yes no := by
  rw [result_authorize_of_tuple hfiltered htuple]
  exact ⟨(permit_eq_ok_iff _).trans hyes, (permit_eq_denied_iff _).trans hno⟩

/-- The whole behaviour of a relation middleware, however it was built and whatever checks its
tuples, and what it comes to for a directory and for a check policy. The steps that add filters
may also be reordered, since only the set of filters counts. -/
theorem authorize_fails_closed (steps : List Step) (checker : Checker Q) (call : Call) :
    ((∃ f ∈ filtersOf steps, f call = true) →
      ((ofSteps steps).authorize checker call).result = .ok () ∧
        ((ofSteps steps).authorize checker.noting call).queries = []) ∧
    (∀ error, (∀ f ∈ filtersOf steps, f call = false) →
      (ofSteps steps).tupleOf call = .error error →
        (∃ detail, error = .config detail) ∧
        ((ofSteps steps).authorize checker call).result = .error error ∧
        ((ofSteps steps).authorize checker.noting call).queries = []) ∧
    (∀ tuple, (∀ f ∈ filtersOf steps, f call = false) →
      (ofSteps steps).tupleOf call = .ok tuple →
        ((ofSteps steps).authorize checker.noting call).queries =
          [(tuple, (checker tuple).queries)] ∧
        Decides ((ofSteps steps).authorize checker call).result
          ((checker tuple).result = .ok true) ((checker tuple).result ≠ .ok true) ∧
        (∀ backend : Directory,
          Decides ((ofSteps steps).authorize (.directory backend) call).result
            (∃ answer, backend tuple = .ok answer ∧ answer.holds = true)
            ((∃ fault, backend tuple = .error fault) ∨
              ∃ answer, backend tuple = .ok answer ∧ answer.holds = false)) ∧
        (∀ (authorizer : Authorizer) (policy : Policy),
          Decides ((ofSteps steps).authorize (.policy authorizer policy) call).result
            (∃ decision, authorizer (Checker.policyQuery policy tuple) = .ok ⟨[decision]⟩ ∧
              decision.holds = true)
            ((∃ fault, authorizer (Checker.policyQuery policy tuple) = .error fault) ∨
              (∃ decisions, authorizer (Checker.policyQuery policy tuple) = .ok ⟨decisions⟩ ∧
                decisions.length ≠ 1) ∨
              ∃ decision, authorizer (Checker.policyQuery policy tuple) = .ok ⟨[decision]⟩ ∧
                decision.holds = false))) ∧
    (∀ other, settingsOf steps = settingsOf other → filtersOf steps ⊆ filtersOf other →
      ((ofSteps steps).authorize checker call).result = .ok () →
        ((ofSteps other).authorize checker call).result = .ok ()) ∧
    ((ofSteps steps).authorize checker.noting call).result =
      ((ofSteps steps).authorize checker call).result := by
  have hunfiltered : (∀ f ∈ filtersOf steps, f call = false) →
      (ofSteps steps).isFiltered call = false := by
    intro hnone
    rw [Bool.eq_false_iff, ne_eq, isFiltered_ofSteps_iff]
    rintro ⟨f, hf, haccepts⟩
    rw [hnone f hf] at haccepts
    cases haccepts
  refine ⟨?_, ?_, ?_, ?_, ?_⟩
  · intro hsome
    have hfiltered := (isFiltered_ofSteps_iff steps call).mpr hsome
    rw [authorize_of_filtered hfiltered, authorize_of_filtered hfiltered]
    exact ⟨rfl, rfl⟩
  · intro error hnone htuple
    refine ⟨config_of_tupleOf_eq_error htuple, ?_, ?_⟩
    · rw [authorize_of_tuple_error (hunfiltered hnone) htuple]
      rfl
    · rw [authorize_of_tuple_error (hunfiltered hnone) htuple]
      rfl
  · intro tuple hnone htuple
    have hfiltered := hunfiltered hnone
    refine ⟨?_, ?_, ?_, ?_⟩
    · rw [queries_authorize_of_tuple hfiltered htuple]
      rfl
    · exact decides_authorize hfiltered htuple Iff.rfl Iff.rfl
    · intro backend
      obtain ⟨hyes, hno⟩ := Checker.result_directory_cases backend tuple
      exact decides_authorize hfiltered htuple hyes hno
    · intro authorizer policy
      obtain ⟨hyes, hno⟩ := Checker.result_policy_cases authorizer policy tuple
      exact decides_authorize hfiltered htuple hyes hno
  · intro other hsettings hfilters hok
    exact authorize_eq_ok_of_filters_subset hsettings hfilters hok
  · exact (authorize_noting (ofSteps steps) checker call).1

end RelationMiddleware

end AccessControl
