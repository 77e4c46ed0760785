import AccessControl.Bytes.Percent
import AccessControl.Http.Header
import AccessControl.Error

/-!
# Responses to rejected calls

Over HTTP a rejected call is answered with the status of its error and the message as plain text.
Over gRPC the answer is always 200 and has no body: the code and the message travel in the headers,
where the message is percent-encoded.
-/

namespace AccessControl

structure Http.Response where
  status : Nat
  headers : Http.Fields
  body : List UInt8
deriving DecidableEq, Inhabited

structure Grpc.Status where
  code : Nat
  message : String
deriving DecidableEq, Inhabited

namespace Http.Response

def text (status : Nat) (body : String) : Response :=
  ⟨status, [("content-type", "text/plain; charset=utf-8")], Text.utf8 body⟩

def bare (status : Nat) : Response := ⟨status, [], []⟩

def rejection (error : AuthorizationError) : Response :=
  text error.httpStatus error.message

@[simp] theorem status_rejection (error : AuthorizationError) :
    (rejection error).status = error.httpStatus := rfl

end Http.Response

namespace Grpc.Status

def ofError (error : AuthorizationError) : Status := ⟨error.grpcCode, error.grpcMessage⟩

/-- Bytes that are not sent as they are: control characters, blanks, quotes and brackets. -/
def isEncoded (b : UInt8) : Bool :=
  b < 32 || b == 127 || [32, 34, 35, 37, 60, 62, 96, 63, 123, 125].contains b

def encodeMessage (message : String) : String := Bytes.percentEncode isEncoded message

/-- The answer that carries a status. A message without text is left out. -/
def toResponse (status : Status) : Http.Response where
  status := 200
  headers :=
    ("content-type", "application/grpc") ::
      ("grpc-status", toString status.code) ::
        if status.message.isEmpty then [] else [("grpc-message", encodeMessage status.message)]
  body := []

end Grpc.Status

end AccessControl
