import AccessControl.Call
import AccessControl.Route.Table
import AccessControl.Run
import AccessControl.Server.Response

/-!
# Guarded services

A guard stands in front of a service. It passes a request on, unchanged, if the authorization of
the call made from it succeeds, and answers a rejection otherwise. `enforce` is the one place where
that is decided; the guards differ in the call that they make from a request and in how they write
a rejection.

The guard of a router reads the parameters of the matched route percent-decoded, and reports none
if one of them is not UTF-8. The guard of a plain service reads them as they stand.
-/

namespace AccessControl.Server

abbrev Service := Http.Request → Http.Response

/-- Decides calls, with queries of type `Q` to a backend. -/
abbrev Authorize (Q : Type) := Call → Run Q Unit

/-- What a guard did with a request: its answer, the run of the authorization and the requests that
reached the service. -/
structure Outcome (Q : Type) where
  response : Http.Response
  run : Run Q Unit
  served : List Http.Request

/-- Passes a request on if its authorization succeeded. -/
def enforce {Q : Type} (run : Run Q Unit) (reject : AuthorizationError → Http.Response)
    (service : Service) (request : Http.Request) : Outcome Q :=
  match run.result with
  | .ok () => ⟨service request, run, [request]⟩
  | .error error => ⟨reject error, run, []⟩

def plainCall (routes : Option Route.Table) (request : Http.Request) : Call :=
  match routes.bind (·.recognize request.uri.path) with
  | some route => (Call.ofRequest request).withRoute route
  | none => Call.ofRequest request

/-- Guards a plain service. Without routes every call is known by its path alone. -/
def guardPlain {Q : Type} (authorize : Authorize Q) (routes : Option Route.Table)
    (service : Service) (request : Http.Request) : Outcome Q :=
  enforce (authorize (plainCall routes request)) .rejection service request

/-- A parameter value with its percent signs resolved, if that gives UTF-8. -/
def decodeParam? (param : String × String) : Option (String × String) :=
  (Text.ofUtf8? (Bytes.percentDecode (Text.utf8 param.2))).map fun value => (param.1, value)

def decodeRoute (route : RouteMatch) : RouteMatch :=
  { route with params := (route.params.mapM decodeParam?).getD [] }

def routedCall (table : Route.Table) (request : Http.Request) : Call :=
  match table.recognize request.uri.path with
  | some route => (Call.ofRequest request).withRoute (decodeRoute route)
  | none => Call.ofRequest request

/-- Guards what a router does with a request. -/
def guardRouted {Q : Type} (authorize : Authorize Q) (table : Route.Table) (next : Service)
    (request : Http.Request) : Outcome Q :=
  enforce (authorize (routedCall table request)) .rejection next request

/-- A router with one handler for all of its routes. -/
def dispatch (table : Route.Table) (handler : Service) : Service := fun request =>
  match table.recognize request.uri.path with
  | some _ => handler request
  | none => .bare 404

/-- What a router sends of an answer: nothing of the body to `HEAD`, and none with a success to
`CONNECT`. -/
def trimBody (method : String) (response : Http.Response) : Http.Response :=
  if method = "HEAD" || (method = "CONNECT" && 200 ≤ response.status && response.status < 300) then
    { response with body := [] }
  else response

def Outcome.trimmed {Q : Type} (outcome : Outcome Q) (method : String) : Outcome Q :=
  { outcome with response := trimBody method outcome.response }

/-- Guards the routes of a router, and what the router answers where none matches. -/
def guardRouter {Q : Type} (authorize : Authorize Q) (table : Route.Table) (handler : Service)
    (request : Http.Request) : Outcome Q :=
  (guardRouted authorize table (dispatch table handler) request).trimmed request.method

/-- Guards a gRPC service before its messages are decoded. -/
def guardFramed {Q : Type} (authorize : Authorize Q) (service : Service)
    (request : Http.Request) : Outcome Q :=
  enforce (authorize (Call.ofFramed request)) (fun error => (Grpc.Status.ofError error).toResponse)
    service request

theorem enforce_of_ok {Q : Type} {run : Run Q Unit} (h : run.result = .ok ())
    (reject : AuthorizationError → Http.Response) (service : Service) (request : Http.Request) :
    enforce run reject service request = ⟨service request, run, [request]⟩ := by
  simp [enforce, h]

theorem enforce_of_error {Q : Type} {run : Run Q Unit} {error : AuthorizationError}
    (h : run.result = .error error) (reject : AuthorizationError → Http.Response)
    (service : Service) (request : Http.Request) :
    enforce run reject service request = ⟨reject error, run, []⟩ := by
  simp [enforce, h]

end AccessControl.Server
