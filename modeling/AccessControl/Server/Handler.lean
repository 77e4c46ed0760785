import AccessControl.Call
import AccessControl.Run
import AccessControl.Server.Guard

/-!
# Guarded handlers

A gRPC handler sees the decoded request, but not the method: `stampMethod` puts the path of the
request among its extensions before it is decoded. `authorizeDecoded` needs that method, and a
message that can be written as JSON, before it asks for authorization. A unary handler brings its
message, a streaming handler brings none.
-/

namespace AccessControl.Server

/-- The request with its path as the gRPC method. -/
def stampMethod (request : Http.Request) : Http.Request :=
  { request with extensions := { request.extensions with methodPath := some request.uri.path } }

def unknownMethod : AuthorizationError := .config "gRPC method unknown"

/-- Authorizes a decoded request. The message is JSON, or the reason why it cannot be written as
such. -/
def authorizeDecoded {Q : Type} (authorize : Authorize Q) (metadata : Http.Fields)
    (extensions : Http.Extensions) (message : Option (Except String Json)) : Run Q Unit :=
  match extensions.methodPath, message with
  | none, _ => (Run.fail unknownMethod).after [⟨.error, "gRPC method unknown", []⟩]
  | some _, some (.error detail) => .fail (.resource (.unserializable detail))
  | some method, some (.ok message) =>
    authorize ((Call.ofDecoded method metadata extensions).withMessage message)
  | some method, none => authorize (Call.ofDecoded method metadata extensions)

def unary {Q : Type} (authorize : Authorize Q) (metadata : Http.Fields)
    (extensions : Http.Extensions) (message : Except String Json) : Run Q Unit :=
  authorizeDecoded authorize metadata extensions (some message)

/-- Authorizes a stream before its first message. -/
def stream {Q : Type} (authorize : Authorize Q) (metadata : Http.Fields)
    (extensions : Http.Extensions) : Run Q Unit :=
  authorizeDecoded authorize metadata extensions none

def statusOf {Q : Type} (run : Run Q Unit) : Except Grpc.Status Unit :=
  run.result.mapError Grpc.Status.ofError

end AccessControl.Server
