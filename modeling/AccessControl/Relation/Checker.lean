import AccessControl.Policy.Path
import AccessControl.Relation.Basic
import AccessControl.Verdict

/-!
# Relation checkers

A checker decides whether a relation tuple holds. One asks a directory, the other evaluates a
check policy on an authorizer: the subject is the identity, and the rest of the tuple is the
resource. The path of the check policy is its own if it has one, else `check` under its root.
-/

namespace AccessControl

/-- Decides relation tuples, with queries of type `Q` to its backend. -/
abbrev Checker (Q : Type) := RelationTuple → Run Q Bool

abbrev Directory := RelationTuple → Except BackendError RelationAnswer

namespace Checker

def directory (backend : Directory) : Checker RelationTuple := fun tuple =>
  ⟨match backend tuple with
    | .ok answer => .ok answer.holds
    | .error error => .error (.backend error), [tuple], []⟩

def policyPath (policy : Policy) : String :=
  if policy.path.isEmpty then ".".intercalate (Policy.underRoot policy.root ["check"])
  else policy.path

/-- The tuple without its subject, as a resource. -/
def resourceOf (tuple : RelationTuple) : Resource :=
  [("object_id", .string tuple.objectId), ("object_type", .string tuple.objectType),
    ("relation", .string tuple.relation), ("subject_type", .string tuple.subjectType)]

def policy (authorizer : Authorizer) (policy : Policy) : Checker Query := fun tuple =>
  Verdict.evaluate authorizer policy (Identity.subject tuple.subjectId) (policyPath policy)
    (resourceOf tuple)

theorem queries_directory (backend : Directory) (tuple : RelationTuple) :
    (directory backend tuple).queries = [tuple] := rfl

end Checker

end AccessControl
