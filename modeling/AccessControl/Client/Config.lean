import AccessControl.Json.Record
import AccessControl.Error
import AccessControl.Text.Blank

/-!
# Client configuration

A configuration holds the settings for one backend: its address, the credentials and identifiers
that go with every call, and the TLS settings. Every field has a default. `validate` refuses
settings that contradict each other, and reports the first contradiction in a fixed order.
-/

namespace AccessControl

structure Client.Config where
  address : String
  url : Option String
  token : Option String
  apiKey : Option String
  tenantId : Option String
  accountId : Option String
  sessionId : Option String
  caCertPath : Option String
  clientCertPath : Option String
  clientKeyPath : Option String
  timeoutInSeconds : UInt64
  insecure : Bool
  noTls : Bool
  headers : Entries String
deriving DecidableEq

inductive Client.ConfigError where
  | conflictingCredentials
  | conflictingTls
  | incompleteClientCert
  | emptyDirectory
  | invalidAddress (address : String)
  | invalidHeader (name : String)
  | unreadable (path : String)
  | tls
  | unloadable
deriving DecidableEq, Inhabited

namespace Client

open Json.Document (withDefault text? bool? word? nullable entries?)

namespace ConfigError

def message : ConfigError → String
  | conflictingCredentials => "both api_key and token are set"
  | conflictingTls => "insecure and no_tls are mutually exclusive"
  | incompleteClientCert => "client_cert_path and client_key_path must be set together"
  | emptyDirectory => "directory configuration has no client sections"
  | invalidAddress address => "invalid address '" ++ address ++ "'"
  | invalidHeader name => "invalid header '" ++ name ++ "'"
  | unreadable path => "failed to read '" ++ path ++ "'"
  | tls => "tls setup failed"
  | unloadable => "failed to load configuration"

def toBackend (error : ConfigError) : BackendError := .config error.message

end ConfigError

namespace Config

def defaultAddress : String := "authorizer.prod.aserto.com:8443"

/-- The settings for an address, all others at their defaults. -/
def new (address : String) : Config :=
  ⟨address, none, none, none, none, none, none, none, none, none, 0, false, false, []⟩

instance : Inhabited Config := ⟨new defaultAddress⟩

def fieldNames : List String :=
  ["address", "url", "token", "api_key", "tenant_id", "account_id", "session_id", "ca_cert_path",
    "client_cert_path", "client_key_path", "timeout_in_seconds", "insecure", "no_tls", "headers"]

/-- Reads a configuration. Every field may be missing, and no others are allowed. -/
def read? (doc : Json.Document) : Option Config := do
  let option := withDefault (nullable text?) none
  match ← doc.fields? fieldNames true with
  | [address, url, token, apiKey, tenantId, accountId, sessionId, caCertPath, clientCertPath,
      clientKeyPath, timeout, insecure, noTls, headers] =>
    let address ← withDefault text? defaultAddress address
    let url ← option url
    let token ← option token
    let apiKey ← option apiKey
    let tenantId ← option tenantId
    let accountId ← option accountId
    let sessionId ← option sessionId
    let caCertPath ← option caCertPath
    let clientCertPath ← option clientCertPath
    let clientKeyPath ← option clientKeyPath
    let timeout ← withDefault word? 0 timeout
    let insecure ← withDefault bool? false insecure
    let noTls ← withDefault bool? false noTls
    let headers ← withDefault (entries? text?) [] headers
    some ⟨address, url, token, apiKey, tenantId, accountId, sessionId, caCertPath, clientCertPath,
      clientKeyPath, UInt64.ofNat timeout, insecure, noTls, headers⟩
  | _ => none

/-- The JSON form, secrets included. -/
def toJson (config : Config) : Json :=
  .object [("address", .string config.address), ("url", Json.ofString? config.url),
    ("token", Json.ofString? config.token), ("api_key", Json.ofString? config.apiKey),
    ("tenant_id", Json.ofString? config.tenantId),
    ("account_id", Json.ofString? config.accountId),
    ("session_id", Json.ofString? config.sessionId),
    ("ca_cert_path", Json.ofString? config.caCertPath),
    ("client_cert_path", Json.ofString? config.clientCertPath),
    ("client_key_path", Json.ofString? config.clientKeyPath),
    ("timeout_in_seconds", Json.ofInt config.timeoutInSeconds.toNat),
    ("insecure", .bool config.insecure), ("no_tls", .bool config.noTls),
    ("headers", .object (config.headers.map fun (name, value) => (name, .string value)))]

/-- Whether a secret is there and not empty. -/
def isSet (secret : Option String) : Bool := secret.any (!·.isEmpty)

def validate (config : Config) : Except ConfigError Unit :=
  if isSet config.token && isSet config.apiKey then .error .conflictingCredentials
  else if config.insecure && config.noTls then .error .conflictingTls
  else if config.clientCertPath.isSome != config.clientKeyPath.isSome then
    .error .incompleteClientCert
  else .ok ()

/-- The time that a call may take; zero seconds set no limit. -/
def timeout? (config : Config) : Option UInt64 :=
  if config.timeoutInSeconds = 0 then none else some config.timeoutInSeconds

/-- The credentials of a call. An API key comes before a token, and a token with a blank in it
brings its own scheme. -/
def authorization? (config : Config) : Option String :=
  match config.apiKey.filter (!·.isEmpty), config.token.filter (!·.isEmpty) with
  | some key, _ => some ("basic " ++ key)
  | none, some token => some (if token.contains ' ' then token else "Bearer " ++ token)
  | none, none => none

def scheme (config : Config) : String := if config.noTls then "http" else "https"

end Config

end Client

end AccessControl
