import AccessControl.Identity.Rules
import AccessControl.Policy.Path
import AccessControl.Resource.Mapper
import AccessControl.Verdict
import AccessControl.Text.Lowercase

/-!
# Policy middleware

The middleware lets a call through when the decision of its policy holds. gRPC methods on the
allow-list pass without a query. For any other call the identity, the policy path and the resource
are resolved, one query is sent, and the call passes exactly if the answer is a single positive
decision. A resource that cannot be built ends the authorization before the query.
-/

namespace AccessControl

structure Middleware where
  policy : Policy
  identity : Identity.Rules
  path : Option Policy.PathSource
  resource : Resource.Chain
  allowedMethods : List String
  ignoredPaths : List String

namespace Middleware

/-- Whether the call is on the allow-list, by its exact method or by its dotted form in any case.
HTTP calls never are. -/
def allows (middleware : Middleware) (call : Call) : Bool :=
  call.kind == .grpc &&
    (middleware.allowedMethods.contains call.method ||
      middleware.ignoredPaths.contains (Text.lowercase (Policy.dottedMethod call.method)))

def identityOf (middleware : Middleware) (call : Call) : Identity :=
  middleware.identity.resolve call

def pathOf (middleware : Middleware) (call : Call) : String :=
  match middleware.path with
  | some source => source.resolve call
  | none => Policy.defaultPath middleware.policy.path middleware.policy.root call

def resourceOf (middleware : Middleware) (call : Call) : Except ResourceError Resource :=
  middleware.resource.build call

/-- The event when a call is on the allow-list. -/
def passing : Event := ⟨.debug, "method is allow-listed", []⟩

def permit {Q : Type} (run : Run Q Bool) : Run Q Unit :=
  { run with
    result :=
      match run.result with
      | .ok true => .ok ()
      | .ok false => .error .denied
      | .error error => .error error }

/-- Asks for the decision of the policy, for an identity, a path and a resource at hand. -/
def ask (middleware : Middleware) (authorizer : Authorizer) (identity : Identity) (path : String)
    (resource : Resource) : Run Query Bool :=
  Verdict.evaluate authorizer middleware.policy identity path resource

def authorize (middleware : Middleware) (authorizer : Authorizer) (call : Call) :
    Run Query Unit :=
  if middleware.allows call then ⟨.ok (), [], [passing]⟩
  else
    match middleware.resourceOf call with
    | .error error => .fail (.resource error)
    | .ok resource =>
      permit (Verdict.evaluate authorizer middleware.policy (middleware.identityOf call)
        (middleware.pathOf call) resource)

@[simp] theorem queries_permit {Q : Type} (run : Run Q Bool) :
    (permit run).queries = run.queries := rfl

theorem queries_ask (middleware : Middleware) (authorizer : Authorizer) (identity : Identity)
    (path : String) (resource : Resource) :
    (middleware.ask authorizer identity path resource).queries =
      [Query.of identity middleware.policy path resource] := rfl

theorem authorize_of_allows {middleware : Middleware} {call : Call}
    (h : middleware.allows call = true) (authorizer : Authorizer) :
    middleware.authorize authorizer call = ⟨.ok (), [], [passing]⟩ := by
  simp [authorize, h]

end Middleware

end AccessControl
