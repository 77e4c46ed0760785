import AccessControl.Client.Config

/-!
# TLS material

Which certificates a client trusts, and which it shows of itself. An insecure client trusts every
server and never opens the file of trusted certificates. A file that cannot be read as PEM, or
holds no private key where one is needed, is unreadable; material that can be read but not used is
refused as TLS material.

What the bytes of a file hold, and what can be used of it, is for the libraries below TLS to say. A
client takes four functions from them and looks at certificates and keys through these alone.
-/

namespace AccessControl.Client

/-- The contents of files by their paths, none for a file that cannot be opened. -/
abbrev Files := String → Option (List UInt8)

inductive KeyFormat where
  | pkcs1
  | pkcs8
  | sec1
deriving DecidableEq, Inhabited

structure PrivateKey where
  format : KeyFormat
  bytes : List UInt8
deriving DecidableEq, Inhabited

/-- What the libraries below TLS make of bytes. -/
class TlsLibrary where
  /-- The certificates in the contents of a PEM file, none if it cannot be read to its end. -/
  certificates? : List UInt8 → Option (List (List UInt8))
  /-- The first private key in the contents of a PEM file. -/
  privateKey? : List UInt8 → Option PrivateKey
  /-- Whether a certificate can be taken up among the trusted ones. -/
  isAnchor : List UInt8 → Bool
  /-- Whether a key can be used and belongs to a chain of certificates. -/
  isPair : List (List UInt8) → PrivateKey → Bool

/-- As long as no library is given, nothing is found in a file, as in one without PEM sections. -/
instance (priority := low) TlsLibrary.blank : TlsLibrary where
  certificates? := fun _ => some []
  privateKey? := fun _ => none
  isAnchor := fun _ => false
  isPair := fun _ _ => false

inductive Trust where
  | anyone
  | platform
  | signedBy (certificates : List (List UInt8))
deriving DecidableEq, Inhabited

structure ClientCertificate where
  chain : List (List UInt8)
  key : PrivateKey
deriving DecidableEq, Inhabited

structure Tls where
  trust : Trust
  own : Option ClientCertificate
deriving DecidableEq, Inhabited

namespace Tls

def readFile {α : Type} (read : List UInt8 → Option α) (files : Files) (path : String) :
    Except ConfigError α :=
  match (files path).bind read with
  | some found => .ok found
  | none => .error (.unreadable path)

theorem readFile_of_none {α : Type} (read : List UInt8 → Option α) {files : Files} {path : String}
    (h : files path = none) : readFile read files path = .error (.unreadable path) := by
  simp [readFile, h]

variable [TlsLibrary]

/-- The trust of a configuration. Certificates that cannot be used are left out, and one at least
must remain. -/
def trustOf (files : Files) (config : Config) : Except ConfigError Trust :=
  if config.insecure then .ok .anyone
  else
    match config.caCertPath with
    | none => .ok .platform
    | some path =>
      match readFile TlsLibrary.certificates? files path with
      | .error error => .error error
      | .ok certificates =>
        let usable := certificates.filter TlsLibrary.isAnchor
        if usable.isEmpty then .error .tls else .ok (.signedBy usable)

def ownOf (files : Files) (config : Config) : Except ConfigError (Option ClientCertificate) :=
  match config.clientCertPath, config.clientKeyPath with
  | none, none => .ok none
  | some certPath, some keyPath => do
    let chain ← readFile TlsLibrary.certificates? files certPath
    let key ← readFile TlsLibrary.privateKey? files keyPath
    if TlsLibrary.isPair chain key then .ok (some ⟨chain, key⟩) else .error .tls
  | _, _ => .error .incompleteClientCert

/-- Loads the TLS material of a configuration, trust first. -/
def load (files : Files) (config : Config) : Except ConfigError Tls := do
  let trust ← trustOf files config
  let own ← ownOf files config
  .ok ⟨trust, own⟩

theorem trustOf_of_insecure (files : Files) {config : Config} (h : config.insecure = true) :
    trustOf files config = .ok .anyone := by
  simp [trustOf, h]

end Tls

end AccessControl.Client
