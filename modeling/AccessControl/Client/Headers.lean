import AccessControl.Client.Config
import AccessControl.Http.Header

/-!
# Request headers of a client

The headers that go with every call of a client: the extra headers of the configuration, then the
identifiers, then the credentials. A later header replaces an earlier one with the same name, so no
extra header takes the place of an identifier or of the credentials. The first name or value that
cannot stand in a header is reported.
-/

namespace AccessControl.Client

/-- The value of a header; a sensitive one is not to be shown. -/
structure HeaderValue where
  text : String
  sensitive : Bool
deriving DecidableEq, Inhabited

/-- Headers with one value for each lower-case name. -/
abbrev Headers := Entries HeaderValue

namespace Headers

def set (headers : Headers) (name value : String) (sensitive : Bool) :
    Except ConfigError Headers :=
  if Http.isHeaderName name && Http.isHeaderValue value then
    .ok (headers.put (Text.asciiLowercase name) ⟨value, sensitive⟩)
  else .error (.invalidHeader name)

end Headers

namespace Config

/-- The identifiers that are not blank, under their header names. -/
def identifiers (config : Config) : List (String × String) :=
  [("aserto-tenant-id", config.tenantId), ("aserto-account-id", config.accountId),
    ("aserto-session-id", config.sessionId)].filterMap fun (name, value) =>
      ((value.map Text.trim).filter (!·.isEmpty)).map fun value => (name, value)

def requestHeaders (config : Config) : Except ConfigError Headers :=
  let plain := (config.headers ++ config.identifiers).foldlM
    (fun headers (name, value) => Headers.set headers name value false) []
  match plain, config.authorization? with
  | .ok headers, some value => Headers.set headers "authorization" value true
  | result, _ => result

end Config

end AccessControl.Client
