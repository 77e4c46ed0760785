import AccessControl.Client.Connections
import AccessControl.Client.Headers
import AccessControl.Client.Tls
import AccessControl.Http.Uri

/-!
# gRPC connections

A connection is opened without a word to the server; it holds what every call on it needs. The
configuration is validated first, then the address is read, the TLS material loaded and the headers
built, and the first failure is the one that is reported.
-/

namespace AccessControl.Client

structure Connection where
  target : String
  headers : Headers
  timeout : Option UInt64
  tls : Tls
deriving DecidableEq, Inhabited

namespace Config

def target (config : Config) : String := config.scheme ++ "://" ++ config.address

end Config

namespace Connection

variable [TlsLibrary]

def connect (files : Files) (config : Config) : Except ConfigError Connection := do
  config.validate
  if (Http.Uri.parse? config.target).isNone then .error (.invalidAddress config.address)
  let tls ← Tls.load files config
  let headers ← config.requestHeaders
  .ok ⟨config.target, headers, config.timeout?, tls⟩

/-- The connector that opens connections, without a state of its own. -/
def connector (files : Files) : Connector Unit Connection := fun config state =>
  (connect files config, state)

theorem connect_of_invalid (files : Files) {config : Config} {error : ConfigError}
    (h : config.validate = .error error) : connect files config = .error error := by
  simp [connect, h, bind, Except.bind]

end Connection

end AccessControl.Client
