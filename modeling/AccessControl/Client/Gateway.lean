import AccessControl.Client.Headers
import AccessControl.Client.Tls
import AccessControl.Http.Uri
import AccessControl.Json.Printer
import AccessControl.Json.Reader
import AccessControl.Url.Basic
import AccessControl.Verdict

/-!
# The REST gateway

Over REST a query is posted as JSON to one endpoint behind the base URL, which is the `url` of the
configuration or else made of its address. Only status 200 with the JSON form of an answer counts
as an answer; the body of any other status is kept in the error, bytes that are not UTF-8 replaced.
-/

namespace AccessControl.Client

structure Gateway where
  endpoint : String
  headers : Headers
  timeout : Option UInt64
  tls : Tls
deriving DecidableEq, Inhabited

structure Gateway.Request where
  method : String
  endpoint : String
  headers : Headers
  body : List UInt8

/-- What comes back: a status with a body, or the reason why nothing does. -/
abbrev Gateway.Reply := Except String (Nat × List UInt8)

namespace Config

def baseUrl (config : Config) : String :=
  match config.url.filter (!·.isEmpty) with
  | some url => url
  | none => config.scheme ++ "://" ++ config.address

def endpoint (config : Config) : Except ConfigError String :=
  match Url.parse? config.baseUrl with
  | none => .error (.invalidAddress config.baseUrl)
  | some base =>
    let text := (base.join ["api", "v2", "authz", "is"]).text
    if (Http.Uri.parse? text).isNone then .error (.invalidAddress config.baseUrl) else .ok text

end Config

namespace Gateway

/-- Opens a client. Settings, headers, TLS material and the URL are looked at in this order. -/
def connect [TlsLibrary] (files : Files) (config : Config) : Except ConfigError Gateway := do
  config.validate
  let headers ← config.requestHeaders
  let tls ← Tls.load files config
  let endpoint ← config.endpoint
  .ok ⟨endpoint, headers.put "content-type" ⟨"application/json", false⟩, config.timeout?, tls⟩

def request (gateway : Gateway) (query : Query) : Request :=
  ⟨"POST", gateway.endpoint, gateway.headers, Text.utf8 query.toJson.compact⟩

def settle : Reply → Except BackendError Answer
  | .error detail => .error (.transport detail)
  | .ok (status, body) =>
    if status ≠ 200 then .error (.http status (Text.ofUtf8Lossy body))
    else
      match (Json.Document.read? body).bind Answer.read? with
      | some answer => .ok answer
      | none => .error (.decode "the body is no answer")

/-- The authorizer behind a gateway, given how requests are exchanged for replies. -/
def authorizer (gateway : Gateway) (exchange : Request → Reply) : Authorizer := fun query =>
  settle (exchange (gateway.request query))

theorem settle_of_status {status : Nat} (h : status ≠ 200) (body : List UInt8) :
    settle (.ok (status, body)) = .error (.http status (Text.ofUtf8Lossy body)) := by
  simp [settle, h]

end Gateway

end AccessControl.Client
