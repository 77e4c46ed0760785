import AccessControl.Client.Config
import AccessControl.Bytes.Xxh3
import AccessControl.Text.Utf8

/-!
# Fingerprints

The fingerprint of a configuration is the hash of a byte sequence that holds every field, secrets
included. Each field is preceded by its length in eight bytes, so no two lists of fields run
together; an absent text counts as an empty one.
-/

namespace AccessControl.Client

/-- A field behind its length. -/
def framed (bytes : List UInt8) : List UInt8 := Bytes.littleEndian 8 bytes.length ++ bytes

def flagByte (b : Bool) : UInt8 := if b then 1 else 0

namespace Config

/-- The fields of a configuration as bytes, in the order in which they are hashed. -/
def hashedFields (config : Config) : List (List UInt8) :=
  (config.address :: [config.url, config.token, config.apiKey, config.tenantId, config.accountId,
    config.sessionId, config.caCertPath, config.clientCertPath, config.clientKeyPath].map
      (·.getD "")).map Text.utf8 ++
  [Bytes.littleEndian 8 config.timeoutInSeconds.toNat,
    [flagByte config.insecure, flagByte config.noTls]] ++
  config.headers.flatMap fun (name, value) => [Text.utf8 name, Text.utf8 value]

def hashedBytes (config : Config) : List UInt8 := config.hashedFields.flatMap framed

/-- The key of a configuration in a connection cache. -/
def fingerprint (config : Config) : UInt64 := Bytes.Xxh3.hash config.hashedBytes

end Config

@[simp] theorem framed_length (bytes : List UInt8) : (framed bytes).length = 8 + bytes.length := by
  simp [framed]

end AccessControl.Client
