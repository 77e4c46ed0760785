import AccessControl.Bytes.Percent
import AccessControl.Client.Connection
import AccessControl.Grpc.Code
import AccessControl.Protobuf.Message
import AccessControl.Relation.Checker

/-!
# gRPC clients

A client of the authorizer sends queries, a client of the directory relation tuples, each to one
method and with the headers of its connection. Headers that belong to the transport are not taken
from the configuration. A call ends with a message or with a code; the code and its message, with
percent signs resolved, are kept in the error.
-/

namespace AccessControl.Client.Rpc

structure Request where
  path : String
  metadata : List (String × String)
  message : List UInt8
deriving DecidableEq, Inhabited

/-- How a call ends: with a message, with a code and its message as they are written in headers, or
without a word from the server, with the code and the reason that the transport gives for it. -/
inductive Reply where
  | message (bytes : List UInt8)
  | status (code : String) (message : List UInt8)
  | lost (code : Grpc.Code) (detail : String)
deriving DecidableEq, Inhabited

/-- Headers that a call sets itself or that describe a reply. -/
def reservedHeaders : List String :=
  ["te", "content-type", "grpc-message", "grpc-message-type", "grpc-status"]

def connectionHeaders : List String :=
  ["connection", "keep-alive", "proxy-connection", "transfer-encoding", "upgrade"]

/-- A time limit in the finest unit in which it has at most eight digits. -/
def timeoutText (seconds : Nat) : String :=
  let units := [(seconds * 1000000000, "n"), (seconds * 1000000, "u"), (seconds * 1000, "m"),
    (seconds, "S"), (seconds / 60, "M")]
  match units.find? fun unit => unit.1 ≤ 99999999 with
  | some (count, unit) => toString count ++ unit
  | none => toString (seconds / 3600) ++ "H"

/-- The headers of every call on a connection. Those that a `connection` header names are dropped
together with it. -/
def metadata (connection : Connection) : List (String × String) :=
  let own := (connection.headers.filter fun entry => !reservedHeaders.contains entry.1).map
    fun entry => (entry.1, entry.2.text)
  let timed := match connection.timeout with
    | none => own
    | some seconds => Entries.put own "grpc-timeout" (timeoutText seconds.toNat)
  let all := Entries.put (Entries.put timed "content-type" "application/grpc") "te" "trailers"
  let named := match Entries.get? all "connection" with
    | none => []
    | some list =>
      (Text.splitOn ',' list).map fun name => Text.asciiLowercase (Text.trim name)
  all.filter fun entry => !connectionHeaders.contains entry.1 && !named.contains entry.1

def queryRequest (connection : Connection) (query : Query) : Request :=
  ⟨"/aserto.authorizer.v2.Authorizer/Is", metadata connection,
    (Protobuf.QueryMessage.ofQuery query).encode⟩

def tupleRequest (connection : Connection) (tuple : RelationTuple) : Request :=
  ⟨"/aserto.directory.reader.v3.Reader/Check", metadata connection, Protobuf.encodeTuple tuple⟩

def failure (code : Grpc.Code) (message : String) : BackendError :=
  .status code.description message

/-- What is wrong with a message that is not UTF-8. -/
def faultText : Nat × Option Nat → String
  | (start, none) => "incomplete utf-8 byte sequence from index " ++ toString start
  | (start, some length) =>
    "invalid utf-8 sequence of " ++ toString length ++ " bytes from index " ++ toString start

def statusFailure (code : String) (message : List UInt8) : BackendError :=
  let bytes := Bytes.percentDecode message
  match Text.firstFault 0 bytes with
  | some fault =>
    failure .unknown ("Error deserializing status message header: " ++ faultText fault)
  | none =>
    if Grpc.Code.ofText code = .ok then failure .internal "Missing response message."
    else failure (Grpc.Code.ofText code) (Text.ofUtf8Lossy bytes)

/-- The answer in a reply. A call that ends well without a message has failed. -/
def settle {α : Type} (read : List UInt8 → Except Protobuf.ReadError α) :
    Reply → Except BackendError α
  | .message bytes =>
    match read bytes with
    | .ok answer => .ok answer
    | .error error => .error (failure .internal error.message)
  | .status code message => .error (statusFailure code message)
  | .lost code detail => .error (failure code detail)

/-- The authorizer behind a connection, given how calls are answered. -/
def authorizer (connection : Connection) (exchange : Request → Reply) : Authorizer := fun query =>
  settle Protobuf.readAnswer (exchange (queryRequest connection query))

def directory (connection : Connection) (exchange : Request → Reply) : Directory := fun tuple =>
  settle Protobuf.readRelationAnswer (exchange (tupleRequest connection tuple))

theorem settle_message {α : Type} {read : List UInt8 → Except Protobuf.ReadError α}
    {bytes : List UInt8} {answer : α} (h : read bytes = .ok answer) :
    settle read (.message bytes) = .ok answer := by
  simp [settle, h]

end AccessControl.Client.Rpc
