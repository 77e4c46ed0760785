import AccessControl.Identity.Rules
import AccessControl.Relation.Checker
import AccessControl.Text.Lowercase

/-!
# Relation middleware

Instead of evaluating a policy for the call itself, this middleware asks whether a subject stands
in a relation to an object. All three are derived from the call. A call that some filter accepts
passes unchecked. Otherwise the tuple must be complete, and the call passes exactly if the checker
says that the tuple holds: a failing checker refuses like a negative one.
-/

namespace AccessControl

structure RelationMiddleware where
  objectType : String
  objectId : String
  objectIdMapper : Option (Call → String)
  objectMapper : Option (Call → String × String)
  subjectType : String
  subjectId : String
  subjectIdMapper : Option (Call → String)
  subjectMapper : Option (Call → String × String)
  identity : Identity.Rules
  relation : Option String
  relationMapper : Option (Call → String)
  filters : List (Call → Bool)
  defaultSubjectType : String
  maxRelationLength : Nat

namespace RelationMiddleware

inductive Step where
  | objectType (value : String)
  | objectId (value : String)
  | objectIdMapper (f : Call → String)
  | objectIdFromContext (key : String)
  | objectIdFromPathParam (name : String)
  | objectMapper (f : Call → String × String)
  | subjectType (value : String)
  | subjectId (value : String)
  | subjectIdMapper (f : Call → String)
  | subjectIdFromContext (key : String)
  | subjectMapper (f : Call → String × String)
  | identity (rules : Identity.Rules)
  | relation (value : String)
  | relationMapper (f : Call → String)
  | methodFilter (methods : List String)
  | contextFilter (key : String) (values : List String)
  | filter (f : Call → Bool)
  | defaults (subjectType : String) (maxRelationLength : Nat)

/-- The middleware before any step. The subject is read from the `authorization` header. -/
def start : RelationMiddleware where
  objectType := ""
  objectId := ""
  objectIdMapper := none
  objectMapper := none
  subjectType := ""
  subjectId := ""
  subjectIdMapper := none
  subjectMapper := none
  identity := { Identity.Rules.authorization with kind := some .subject }
  relation := none
  relationMapper := none
  filters := []
  defaultSubjectType := "user"
  maxRelationLength := 64

/-- The context value under a key, empty unless it is a text. -/
def contextText (key : String) (call : Call) : String := (call.contextText? key).getD ""

def acceptsMethod (methods : List String) (call : Call) : Bool :=
  call.kind == .grpc && methods.contains call.method

/-- Accepts calls whose context value under a key is one of the listed texts. -/
def acceptsContext (key : String) (values : List String) (call : Call) : Bool :=
  match call.contextText? key with
  | some value => values.contains value
  | none => false

def step (m : RelationMiddleware) : Step → RelationMiddleware
  | .objectType value => { m with objectType := value }
  | .objectId value => { m with objectId := value }
  | .objectIdMapper f => { m with objectIdMapper := some f }
  | .objectIdFromContext key => { m with objectIdMapper := some (contextText key) }
  | .objectIdFromPathParam name =>
    { m with objectIdMapper := some fun call => (call.pathParam? name).getD "" }
  | .objectMapper f => { m with objectMapper := some f }
  | .subjectType value => { m with subjectType := value }
  | .subjectId value => { m with subjectId := value }
  | .subjectIdMapper f => { m with subjectIdMapper := some f }
  | .subjectIdFromContext key => { m with subjectIdMapper := some (contextText key) }
  | .subjectMapper f => { m with subjectMapper := some f }
  | .identity rules => { m with identity := rules }
  | .relation value => { m with relation := some value }
  | .relationMapper f => { m with relationMapper := some f }
  | .methodFilter methods => { m with filters := m.filters ++ [acceptsMethod methods] }
  | .contextFilter key values => { m with filters := m.filters ++ [acceptsContext key values] }
  | .filter f => { m with filters := m.filters ++ [f] }
  | .defaults subjectType maxRelationLength =>
    { m with defaultSubjectType := subjectType, maxRelationLength }

def ofSteps (steps : List Step) : RelationMiddleware := steps.foldl step start

def isFiltered (m : RelationMiddleware) (call : Call) : Bool := m.filters.any fun f => f call

def objectOf (m : RelationMiddleware) (call : Call) : String × String :=
  match m.objectMapper with
  | some f => f call
  | none =>
    (m.objectType,
      match m.objectIdMapper with
      | some f => f call
      | none => m.objectId)

/-- The type and the ID of the subject, before the default type. -/
def rawSubjectOf (m : RelationMiddleware) (call : Call) : String × String :=
  match m.subjectMapper with
  | some f => f call
  | none =>
    (m.subjectType,
      match m.subjectIdMapper with
      | some f => f call
      | none => if m.subjectId.isEmpty then (m.identity.resolve call).value else m.subjectId)

def subjectOf (m : RelationMiddleware) (call : Call) : String × String :=
  let (type, id) := m.rawSubjectOf call
  (if type.isEmpty then m.defaultSubjectType else type, id)

/-- The dotted path of a call, which names its relation when nothing else does. -/
def callPath (call : Call) : String :=
  match call.kind with
  | .grpc => Policy.dottedMethod call.method
  | .http => Policy.urlPath "" call.method call.routePath

/-- The relation of a call. A derived one is lower-cased and then cut. -/
def relationOf (m : RelationMiddleware) (call : Call) : String :=
  match m.relationMapper, m.relation with
  | some f, _ => f call
  | none, some relation => relation
  | none, none =>
    String.ofList ((Text.lowercase (callPath call)).toList.take m.maxRelationLength)

def tupleOf (m : RelationMiddleware) (call : Call) : Except AuthorizationError RelationTuple :=
  let (objectType, objectId) := m.objectOf call
  let (subjectType, subjectId) := m.subjectOf call
  let relation := m.relationOf call
  if objectId.isEmpty then .error (.config "object ID is empty")
  else if objectType.isEmpty then .error (.config "object type is empty")
  else if subjectId.isEmpty then .error (.config "subject ID is empty")
  else if relation.isEmpty then .error (.config "relation is empty")
  else .ok ⟨objectType, objectId, relation, subjectType, subjectId, false⟩

/-- The event when a filter accepts a call. -/
def skipping : Event := ⟨.debug, "relation check skipped by filter", []⟩

def checking (tuple : RelationTuple) : Event :=
  ⟨.debug, "checking relation",
    [("object_type", tuple.objectType), ("object_id", tuple.objectId),
      ("relation", tuple.relation), ("subject_type", tuple.subjectType)]⟩

def outcomeEvents : Except AuthorizationError Bool → List Event
  | .ok true => []
  | .ok false => [⟨.info, "relation check denied", []⟩]
  | .error error => [⟨.warn, "relation check failed", [("error", error.message)]⟩]

/-- Turns the outcome of a check into permission; everything but a positive one is a refusal. -/
def permit : Except AuthorizationError Bool → Except AuthorizationError Unit
  | .ok true => .ok ()
  | _ => .error .denied

def authorize {Q : Type} (m : RelationMiddleware) (checker : Checker Q) (call : Call) :
    Run Q Unit :=
  if m.isFiltered call then ⟨.ok (), [], [skipping]⟩
  else
    match m.tupleOf call with
    | .error error => .fail error
    | .ok tuple =>
      let run := checker tuple
      ⟨permit run.result, run.queries,
        checking tuple :: (run.events ++ outcomeEvents run.result)⟩

theorem authorize_of_filtered {Q : Type} {m : RelationMiddleware} {call : Call}
    (h : m.isFiltered call = true) (checker : Checker Q) :
    m.authorize checker call = ⟨.ok (), [], [skipping]⟩ := by
  simp [authorize, h]

end RelationMiddleware

end AccessControl
