/-!
# Failures

Each kind of failure is a type of causes, and each has one function for its wording. A backend
fails to answer; a mask or a resource cannot be built for a call; a configuration is refused when
it is built; and an authorization ends without permission. Only an explicit or implied refusal is
`denied`; everything else is a fault of the service.
-/

namespace AccessControl

inductive BackendError where
  | transport (detail : String)
  | status (code detail : String)
  | http (status : Nat) (body : String)
  | decode (detail : String)
  | config (detail : String)
deriving DecidableEq, Inhabited

/-- Why a field mask was refused or did not fit a message. -/
inductive MaskError where
  | emptySegment (path : String)
  | unknownField (path field : String)
  | notAnObject
deriving DecidableEq, Inhabited

inductive ResourceError where
  | mask (error : MaskError)
  | unserializable (detail : String)
  | mapper (detail : String)
deriving DecidableEq, Inhabited

inductive AuthorizationError where
  | denied
  | invalidDecision (count : Nat)
  | backend (error : BackendError)
  | resource (error : ResourceError)
  | config (detail : String)
deriving DecidableEq, Inhabited

inductive BuildError where
  | missingDecision
  | missingName
  | mask (error : MaskError)
  | route (template reason : String)
deriving DecidableEq, Inhabited

def backquoted (s : String) : String := "\x60" ++ s ++ "\x60"

namespace BackendError

def message : BackendError → String
  | transport detail => "transport error: " ++ detail
  | status code detail => "rpc failed with status " ++ code ++ ": " ++ detail
  | http code body => "http request failed with status " ++ toString code ++ ": " ++ body
  | decode detail => "decode error: " ++ detail
  | config detail => "invalid client configuration: " ++ detail

end BackendError

namespace MaskError

def message : MaskError → String
  | emptySegment path => "field path " ++ backquoted path ++ " has an empty segment"
  | unknownField path field => "field path " ++ backquoted path ++ ": no field " ++ backquoted field
  | notAnObject => "message is not an object"

end MaskError

namespace ResourceError

def message : ResourceError → String
  | mask error => error.message
  | unserializable detail => "message serialization failed: " ++ detail
  | mapper detail => detail

end ResourceError

namespace AuthorizationError

def message : AuthorizationError → String
  | denied => "authorization failed"
  | invalidDecision count =>
    "invalid decision: expected exactly one decision, got " ++ toString count
  | backend error => "authorizer call failed: " ++ error.message
  | resource error => "resource context: " ++ error.message
  | config detail => detail

def httpStatus : AuthorizationError → Nat
  | denied => 403
  | _ => 500

/-- The gRPC code: 7 for a refusal and 13 for a fault. -/
def grpcCode : AuthorizationError → Nat
  | denied => 7
  | _ => 13

/-- The gRPC message. It does not tell how many decisions there were. -/
def grpcMessage : AuthorizationError → String
  | invalidDecision _ => "invalid decision"
  | error => error.message

theorem httpStatus_eq_403_iff (error : AuthorizationError) :
    error.httpStatus = 403 ↔ error = denied := by
  cases error <;> simp [httpStatus]

end AuthorizationError

namespace BuildError

def message : BuildError → String
  | missingDecision => "policy decision must not be empty"
  | missingName => "policy name must not be empty"
  | mask error => "invalid field mask: " ++ error.message
  | route template reason => "invalid route template " ++ backquoted template ++ ": " ++ reason

end BuildError

end AccessControl
