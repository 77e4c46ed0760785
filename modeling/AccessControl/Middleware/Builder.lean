import AccessControl.Middleware.Basic

/-!
# Building the policy middleware

A middleware is built from a policy by a list of steps. Steps never fail; an invalid field mask is
recorded, and `build` reports the first recorded error, then a blank policy name, then a blank
decision. Later identity and path steps replace earlier ones, resource steps and allow-lists
accumulate, and `noResource` drops the resource steps taken so far together with the default one.
-/

namespace AccessControl.Middleware

inductive Step where
  | identity (rules : Identity.Rules)
  | pathFromUrl (root : String)
  | pathFromMethod (root : String)
  | pathMapper (f : Call → String)
  | resourceFields (paths : List String)
  | resourceByMethod (byMethod : List (String × List String)) (default : List String)
  | resourceContext (key field : String)
  | resourceMapper (f : Call → Resource → Except ResourceError Resource)
  | noResource
  | allowedMethods (methods : List String)
  | ignoredMethods (methods : List String)

/-- A middleware in the making, with the errors of its steps. -/
structure Draft where
  middleware : Middleware
  errors : List BuildError

def Draft.start (policy : Policy) : Draft where
  middleware :=
    { policy, identity := Identity.Rules.authorization, path := none,
      resource := Resource.Chain.default, allowedMethods := [], ignoredPaths := [] }
  errors := []

/-- Adds a mapper to the resource chain, or records why there is none. -/
def Draft.addMapper (draft : Draft) : Except MaskError Resource.Mapper → Draft
  | .ok mapper =>
    { draft with
      middleware := { draft.middleware with resource := draft.middleware.resource ++ [mapper] } }
  | .error error => { draft with errors := draft.errors ++ [.mask error] }

/-- Parses the masks of a list of methods in order, then the default one. -/
def fieldsByMethod (byMethod : List (String × List String)) (default : List String) :
    Except MaskError Resource.Mapper :=
  match byMethod.mapM fun (method, paths) =>
      (FieldMask.parse paths).map fun mask => (method, mask) with
  | .error error => .error error
  | .ok masks => (FieldMask.parse default).map (.fieldsByMethod masks)

def isExact (method : String) : Bool := method.startsWith "/"

/-- The form in which a dotted entry of the ignore-list is compared. -/
def ignoredForm (method : String) : String := Text.lowercase (Text.trimChar '.' method)

def Draft.step (draft : Draft) : Step → Draft
  | .identity rules => { draft with middleware := { draft.middleware with identity := rules } }
  | .pathFromUrl root =>
    { draft with middleware := { draft.middleware with path := some (.url root) } }
  | .pathFromMethod root =>
    { draft with middleware := { draft.middleware with path := some (.method root) } }
  | .pathMapper f =>
    { draft with middleware := { draft.middleware with path := some (.mapper f) } }
  | .resourceFields paths => draft.addMapper ((FieldMask.parse paths).map .fields)
  | .resourceByMethod byMethod default => draft.addMapper (fieldsByMethod byMethod default)
  | .resourceContext key field => draft.addMapper (.ok (.context key field))
  | .resourceMapper f => draft.addMapper (.ok (.custom f))
  | .noResource => { draft with middleware := { draft.middleware with resource := [] } }
  | .allowedMethods methods =>
    { draft with
      middleware :=
        { draft.middleware with
          allowedMethods := draft.middleware.allowedMethods ++ methods } }
  | .ignoredMethods methods =>
    { draft with
      middleware :=
        { draft.middleware with
          allowedMethods := draft.middleware.allowedMethods ++ methods.filter isExact
          ignoredPaths :=
            draft.middleware.ignoredPaths ++
              (methods.filter fun method => !isExact method).map ignoredForm } }

def Draft.ofSteps (policy : Policy) (steps : List Step) : Draft :=
  steps.foldl Draft.step (Draft.start policy)

def isBlankText (s : String) : Bool := (Text.trim s).isEmpty

def Draft.finish (draft : Draft) : Except BuildError Middleware :=
  match draft.errors with
  | error :: _ => .error error
  | [] =>
    if isBlankText draft.middleware.policy.name then .error .missingName
    else if isBlankText draft.middleware.policy.decision then .error .missingDecision
    else .ok draft.middleware

def build (policy : Policy) (steps : List Step) : Except BuildError Middleware :=
  (Draft.ofSteps policy steps).finish

end AccessControl.Middleware
