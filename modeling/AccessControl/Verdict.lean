import AccessControl.Query
import AccessControl.Run

/-!
# Asking for a verdict

An authorizer is a function from queries to answers, and may fail. `reduce` accepts an answer only
if it holds exactly one decision. `evaluate` sends the one query of a policy and reduces the
answer; it logs the query, a failure of the authorizer and a refusal.
-/

namespace AccessControl

abbrev Authorizer := Query → Except BackendError Answer

namespace Verdict

/-- The outcome of the single decision of an answer. -/
def reduce (answer : Answer) : Except AuthorizationError Bool :=
  match answer.decisions with
  | [decision] => .ok decision.holds
  | decisions => .error (.invalidDecision decisions.length)

/-- The event before a query is sent. -/
def asking (policy : Policy) (query : Query) : Event :=
  ⟨.debug, "evaluating policy",
    [("policy", policy.name), ("path", query.path), ("identity_type", query.identity.kind.label)]⟩

def failing (query : Query) (error : BackendError) : Event :=
  ⟨.warn, "authorizer call failed", [("path", query.path), ("error", error.message)]⟩

def refusing (policy : Policy) (query : Query) : Event :=
  ⟨.info, "authorization denied",
    [("policy", policy.name), ("path", query.path), ("decision", policy.decision)]⟩

/-- The result of a query, given the answer of the authorizer. -/
def settle (answer : Except BackendError Answer) : Except AuthorizationError Bool :=
  match answer with
  | .error error => .error (.backend error)
  | .ok answer => reduce answer

def outcomeEvents (policy : Policy) (query : Query) (answer : Except BackendError Answer) :
    List Event :=
  match answer with
  | .error error => [failing query error]
  | .ok answer =>
    match reduce answer with
    | .ok false => [refusing policy query]
    | _ => []

def evaluate (authorizer : Authorizer) (policy : Policy) (identity : Identity) (path : String)
    (resource : Resource) : Run Query Bool :=
  let query := Query.of identity policy path resource
  let answer := authorizer query
  ⟨settle answer, [query], asking policy query :: outcomeEvents policy query answer⟩

theorem queries_evaluate (authorizer : Authorizer) (policy : Policy) (identity : Identity)
    (path : String) (resource : Resource) :
    (evaluate authorizer policy identity path resource).queries =
      [Query.of identity policy path resource] := rfl

end Verdict

end AccessControl
