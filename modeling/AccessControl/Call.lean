import AccessControl.Json.Basic
import AccessControl.Http.Header
import AccessControl.Http.Uri

/-!
# Calls

A call is what the rules of this library see of an inbound request: its transport, method, path,
host, headers, context values, the route that matched it and the message it carries. Requests over
HTTP, gRPC requests that are still framed as HTTP, and decoded gRPC requests each have a
constructor, and nothing else about them is ever looked at.

The host comes from the URI if that names one and from the `host` header otherwise, without the
port. A bracketed address from a header loses its brackets.
-/

namespace AccessControl

/-- Values that earlier layers have attached to a request. -/
abbrev Context := Entries Json

/-- What travels with a request apart from its head and body. -/
structure Http.Extensions where
  context : Option Context
  methodPath : Option String
deriving Inhabited

structure Http.Request where
  method : String
  uri : Http.Uri
  headers : Http.Fields
  extensions : Http.Extensions
  body : List UInt8
deriving Inhabited

inductive Call.Kind where
  | http
  | grpc
deriving DecidableEq, Inhabited

/-- The headers of a call. Metadata fields whose names end in `-bin` hold bytes, not text. -/
inductive Call.Headers where
  | fields (list : Http.Fields)
  | metadata (list : Http.Fields)
deriving Inhabited

/-- A matched route: its template, if known, and the parameters in template order. -/
structure RouteMatch where
  template : Option String
  params : List (String × String)
deriving DecidableEq, Inhabited

structure Call where
  kind : Call.Kind
  method : String
  path : String
  host : Option String
  headers : Call.Headers
  context : Option Context
  route : Option RouteMatch
  message : Option Json
deriving Inhabited

namespace Call

def isBinaryName (name : String) : Bool := "-bin".toList.isSuffixOf name.toList

/-- The first readable value under a name of any case. -/
def Headers.text? : Headers → String → Option String
  | fields list, name => list.text? name
  | metadata list, name =>
    if isBinaryName (Text.asciiLowercase name) then none else list.text? name

/-- A host without its port. Brackets are opened, and only a port of digits is cut off. -/
def stripPort (host : String) : String :=
  match host.toList with
  | '[' :: rest => String.ofList (rest.takeWhile (· != ']'))
  | cs =>
    match Text.rsplitOnce ':' cs with
    | some (name, port) => if port.all Char.isDigit then String.ofList name else host
    | none => host

/-- The host of a request: the one in the URI, else the one in the `host` header. -/
def hostOf (uri : Http.Uri) (headers : Http.Fields) : Option String :=
  match uri.host? with
  | some host => some host
  | none => (headers.text? "host").map stripPort

def ofRequest (request : Http.Request) : Call where
  kind := .http
  method := request.method
  path := request.uri.path
  host := hostOf request.uri request.headers
  headers := .fields request.headers
  context := request.extensions.context
  route := none
  message := none

/-- A gRPC call that is still framed as HTTP: its method is the path of the request. -/
def ofFramed (request : Http.Request) : Call :=
  { ofRequest request with kind := .grpc, method := request.uri.path }

def ofDecoded (method : String) (metadata : Http.Fields) (extensions : Http.Extensions) :
    Call where
  kind := .grpc
  method := method
  path := method
  host := (metadata.text? "host").map stripPort
  headers := .metadata metadata
  context := extensions.context
  route := none
  message := none

def withRoute (call : Call) (route : RouteMatch) : Call := { call with route := some route }

def withContext (call : Call) (context : Context) : Call := { call with context := some context }

def withMessage (call : Call) (message : Json) : Call := { call with message := some message }

/-- The first readable header or metadata value under a name. -/
def header? (call : Call) (name : String) : Option String := call.headers.text? name

def contextValue? (call : Call) (key : String) : Option Json :=
  call.context.bind fun context => context.get? key

/-- The context value under a key, if it is a text. -/
def contextText? (call : Call) (key : String) : Option String :=
  (call.contextValue? key).bind Json.string?

def pathParams (call : Call) : List (String × String) :=
  match call.route with
  | none => []
  | some route => route.params

def pathParam? (call : Call) (name : String) : Option String :=
  (call.pathParams.find? fun param => param.1 == name).map (·.2)

/-- The template of the matched route, else the path as it was requested. -/
def routePath (call : Call) : String :=
  match call.route with
  | some ⟨some template, _⟩ => template
  | _ => call.path

@[simp] theorem routePath_of_no_route (call : Call) (h : call.route = none) :
    call.routePath = call.path := by
  simp [routePath, h]

end Call

end AccessControl
