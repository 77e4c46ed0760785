import AccessControl.Proofs.Steps
import AccessControl.Relation.Middleware
import Mathlib.Tactic.SplitIfs

/-!
# The tuple that some steps settle

The parts of the relation tuple of a call are resolved one by one. For each of them a mapper comes
before a fixed value, a mapper for type and ID before one for the ID alone, and of several steps
that set the same slot the last one counts. What no step settles has a default: the subject is taken
from the identity rules, its type from the defaults, and the relation from the path of the call. The
tuple is complete if none of its parts but the type of the subject is empty, and that one cannot be
unless the default is.
-/

namespace AccessControl.RelationMiddleware

section

variable (m : RelationMiddleware) (call : Call)

theorem tupleOf_eq_ite :
    m.tupleOf call =
      if (m.objectOf call).2 = "" then .error (.config "object ID is empty")
      else if (m.objectOf call).1 = "" then .error (.config "object type is empty")
      else if (m.subjectOf call).2 = "" then .error (.config "subject ID is empty")
      else if m.relationOf call = "" then .error (.config "relation is empty")
      else .ok ⟨(m.objectOf call).1, (m.objectOf call).2, m.relationOf call,
        (m.subjectOf call).1, (m.subjectOf call).2, false⟩ := by
  simp only [tupleOf, String.isEmpty_iff]

/-- A tuple is made of the resolved parts exactly if none is empty. -/
theorem tupleOf_eq_ok_iff (tuple : RelationTuple) :
    m.tupleOf call = .ok tuple ↔
      (m.objectOf call).2 ≠ "" ∧ (m.objectOf call).1 ≠ "" ∧ (m.subjectOf call).2 ≠ "" ∧
        m.relationOf call ≠ "" ∧
        tuple = ⟨(m.objectOf call).1, (m.objectOf call).2, m.relationOf call,
          (m.subjectOf call).1, (m.subjectOf call).2, false⟩ := by
  rw [tupleOf_eq_ite]
  split_ifs with hid htype hsubject hrelation
  · simp [hid]
  · simp [htype]
  · simp [hsubject]
  · simp [hrelation]
  · rw [Except.ok.injEq, eq_comm]
    simp [hid, htype, hsubject, hrelation]

theorem eq_of_tupleOf {m : RelationMiddleware} {call : Call} {tuple : RelationTuple}
    (h : m.tupleOf call = .ok tuple) :
    tuple = ⟨(m.objectOf call).1, (m.objectOf call).2, m.relationOf call, (m.subjectOf call).1,
      (m.subjectOf call).2, false⟩ :=
  ((m.tupleOf_eq_ok_iff call tuple).mp h).2.2.2.2

/-- The error names the first empty part. -/
theorem tupleOf_eq_error_iff (error : AuthorizationError) :
    m.tupleOf call = .error error ↔
      (m.objectOf call).2 = "" ∧ error = .config "object ID is empty" ∨
      (m.objectOf call).2 ≠ "" ∧ (m.objectOf call).1 = "" ∧
        error = .config "object type is empty" ∨
      (m.objectOf call).2 ≠ "" ∧ (m.objectOf call).1 ≠ "" ∧ (m.subjectOf call).2 = "" ∧
        error = .config "subject ID is empty" ∨
      (m.objectOf call).2 ≠ "" ∧ (m.objectOf call).1 ≠ "" ∧ (m.subjectOf call).2 ≠ "" ∧
        m.relationOf call = "" ∧ error = .config "relation is empty" := by
  rw [tupleOf_eq_ite]
  split_ifs with hid htype hsubject hrelation
  · simpa [hid] using eq_comm
  · simpa [hid, htype] using eq_comm
  · simpa [hid, htype, hsubject] using eq_comm
  · simpa [hid, htype, hsubject, hrelation] using eq_comm
  · simp [hid, htype, hsubject, hrelation]

/-- A tuple that is not complete is a fault of the configuration. -/
theorem config_of_tupleOf_eq_error {m : RelationMiddleware} {call : Call}
    {error : AuthorizationError} (h : m.tupleOf call = .error error) :
    ∃ detail, error = .config detail := by
  rcases (m.tupleOf_eq_error_iff call error).mp h with
    ⟨-, rfl⟩ | ⟨-, -, rfl⟩ | ⟨-, -, -, rfl⟩ | ⟨-, -, -, -, rfl⟩
  all_goals exact ⟨_, rfl⟩

theorem tupleOf_congr {m : RelationMiddleware} {call other : Call}
    (hobject : m.objectOf call = m.objectOf other)
    (hsubject : m.subjectOf call = m.subjectOf other)
    (hrelation : m.relationOf call = m.relationOf other) : m.tupleOf call = m.tupleOf other := by
  rw [tupleOf, tupleOf, hobject, hsubject, hrelation]

end

/-! What a step sets, one function for each slot. Three kinds of steps share the slot for the mapper
of the object ID, and two that for the mapper of the subject ID. -/

def Step.objectType? : Step → Option String
  | .objectType value => some value
  | _ => none

def Step.objectId? : Step → Option String
  | .objectId value => some value
  | _ => none

def Step.objectIdMapper? : Step → Option (Call → String)
  | .objectIdMapper f => some f
  | .objectIdFromContext key => some (contextText key)
  | .objectIdFromPathParam name => some fun call => (call.pathParam? name).getD ""
  | _ => none

def Step.objectMapper? : Step → Option (Call → String × String)
  | .objectMapper f => some f
  | _ => none

def Step.subjectType? : Step → Option String
  | .subjectType value => some value
  | _ => none

def Step.subjectId? : Step → Option String
  | .subjectId value => some value
  | _ => none

def Step.subjectIdMapper? : Step → Option (Call → String)
  | .subjectIdMapper f => some f
  | .subjectIdFromContext key => some (contextText key)
  | _ => none

def Step.subjectMapper? : Step → Option (Call → String × String)
  | .subjectMapper f => some f
  | _ => none

def Step.identity? : Step → Option Identity.Rules
  | .identity rules => some rules
  | _ => none

def Step.relation? : Step → Option String
  | .relation value => some value
  | _ => none

def Step.relationMapper? : Step → Option (Call → String)
  | .relationMapper f => some f
  | _ => none

def Step.defaults? : Step → Option (String × Nat)
  | .defaults type length => some (type, length)
  | _ => none

def objectAfter (steps : List Step) (call : Call) : String × String :=
  let type := (lastSet Step.objectType? steps).getD ""
  match lastSet Step.objectMapper? steps, lastSet Step.objectIdMapper? steps with
  | some f, _ => f call
  | none, some f => (type, f call)
  | none, none => (type, (lastSet Step.objectId? steps).getD "")

/-- The subject that some steps settle for a call, before the default type. -/
def rawSubjectAfter (steps : List Step) (call : Call) : String × String :=
  let type := (lastSet Step.subjectType? steps).getD ""
  let id := (lastSet Step.subjectId? steps).getD ""
  let rules := (lastSet Step.identity? steps).getD start.identity
  match lastSet Step.subjectMapper? steps, lastSet Step.subjectIdMapper? steps with
  | some f, _ => f call
  | none, some f => (type, f call)
  | none, none => (type, if id ≠ "" then id else (rules.resolve call).value)

/-- The default type of a subject and the greatest length of a relation after some steps. -/
def defaultsAfter (steps : List Step) : String × Nat :=
  (lastSet Step.defaults? steps).getD ("user", 64)

def subjectAfter (steps : List Step) (call : Call) : String × String :=
  let (type, id) := rawSubjectAfter steps call
  (if type = "" then (defaultsAfter steps).1 else type, id)

/-- The relation that some steps settle for a call. Only one that is derived from the path of the
call is lower-cased, and then cut. -/
def relationAfter (steps : List Step) (call : Call) : String :=
  match lastSet Step.relationMapper? steps, lastSet Step.relation? steps, call.kind with
  | some f, _, _ => f call
  | none, some relation, _ => relation
  | none, none, .grpc => cut (Policy.dottedMethod call.method)
  | none, none, .http => cut (Policy.urlPath "" call.method call.routePath)
where
  cut (path : String) : String :=
    String.ofList ((Text.lowercase path).toList.take (defaultsAfter steps).2)

theorem objectOf_ofSteps (steps : List Step) (call : Call) :
    (ofSteps steps).objectOf call = objectAfter steps call := by
  have htype : (ofSteps steps).objectType = (lastSet Step.objectType? steps).getD "" :=
    slot_foldl objectType (fun m s => by cases s <;> rfl) steps start
  have hid : (ofSteps steps).objectId = (lastSet Step.objectId? steps).getD "" :=
    slot_foldl objectId (fun m s => by cases s <;> rfl) steps start
  have hidMapper : (ofSteps steps).objectIdMapper = lastSet Step.objectIdMapper? steps :=
    optional_slot_foldl objectIdMapper (fun m s => by cases s <;> rfl) steps rfl
  have hmapper : (ofSteps steps).objectMapper = lastSet Step.objectMapper? steps :=
    optional_slot_foldl objectMapper (fun m s => by cases s <;> rfl) steps rfl
  rw [objectOf, objectAfter, htype, hid, hidMapper, hmapper]
  cases lastSet Step.objectMapper? steps with
  | some f => rfl
  | none => cases lastSet Step.objectIdMapper? steps <;> rfl

theorem rawSubjectOf_ofSteps (steps : List Step) (call : Call) :
    (ofSteps steps).rawSubjectOf call = rawSubjectAfter steps call := by
  have htype : (ofSteps steps).subjectType = (lastSet Step.subjectType? steps).getD "" :=
    slot_foldl subjectType (fun m s => by cases s <;> rfl) steps start
  have hid : (ofSteps steps).subjectId = (lastSet Step.subjectId? steps).getD "" :=
    slot_foldl subjectId (fun m s => by cases s <;> rfl) steps start
  have hidMapper : (ofSteps steps).subjectIdMapper = lastSet Step.subjectIdMapper? steps :=
    optional_slot_foldl subjectIdMapper (fun m s => by cases s <;> rfl) steps rfl
  have hmapper : (ofSteps steps).subjectMapper = lastSet Step.subjectMapper? steps :=
    optional_slot_foldl subjectMapper (fun m s => by cases s <;> rfl) steps rfl
  have hrules : (ofSteps steps).identity =
      (lastSet Step.identity? steps).getD start.identity :=
    slot_foldl identity (fun m s => by cases s <;> rfl) steps start
  rw [rawSubjectOf, rawSubjectAfter, htype, hid, hidMapper, hmapper, hrules]
  cases lastSet Step.subjectMapper? steps with
  | some f => rfl
  | none =>
      cases lastSet Step.subjectIdMapper? steps with
      | some f => rfl
      | none => simp only [String.isEmpty_iff, ne_eq, ite_not]

theorem defaults_ofSteps (steps : List Step) :
    ((ofSteps steps).defaultSubjectType, (ofSteps steps).maxRelationLength) =
      defaultsAfter steps :=
  slot_foldl (fun m => (m.defaultSubjectType, m.maxRelationLength))
    (fun m s => by cases s <;> rfl) steps start

theorem subjectOf_ofSteps (steps : List Step) (call : Call) :
    (ofSteps steps).subjectOf call = subjectAfter steps call := by
  have htype : (ofSteps steps).defaultSubjectType = (defaultsAfter steps).1 :=
    congrArg Prod.fst (defaults_ofSteps steps)
  rw [subjectOf, subjectAfter, rawSubjectOf_ofSteps, htype]
  simp only [String.isEmpty_iff]

theorem relationOf_ofSteps (steps : List Step) (call : Call) :
    (ofSteps steps).relationOf call = relationAfter steps call := by
  have hlength : (ofSteps steps).maxRelationLength = (defaultsAfter steps).2 :=
    congrArg Prod.snd (defaults_ofSteps steps)
  have hrelation : (ofSteps steps).relation = lastSet Step.relation? steps :=
    optional_slot_foldl relation (fun m s => by cases s <;> rfl) steps rfl
  have hmapper : (ofSteps steps).relationMapper = lastSet Step.relationMapper? steps :=
    optional_slot_foldl relationMapper (fun m s => by cases s <;> rfl) steps rfl
  rw [relationOf, relationAfter, hlength, hrelation, hmapper]
  cases lastSet Step.relationMapper? steps with
  | some f => rfl
  | none =>
      cases lastSet Step.relation? steps with
      | some relation => rfl
      | none =>
          unfold callPath
          cases call.kind <;> rfl

/-- Each of the two letters is lower-cased to two characters, and the last of the four is cut off
afterwards. -/
example : relationAfter [.defaults "user" 3]
    (Call.ofDecoded "/\u0130\u0130" [] ⟨none, none⟩) = "i\u0307i" := by
  decide +kernel

end AccessControl.RelationMiddleware
