import AccessControl.Client.Connections

/-!
# Directory connections

A directory has five services. A configuration holds a section for each of them and a base section
for those without one of their own; a service with neither is not connected. The services are
connected in a fixed order through one cache, up to the first failure, and sections with equal
settings share a connection. All sections are validated before anything is connected, whether a
service uses them or not.
-/

namespace AccessControl.Client

open Json.Document (withDefault nullable)

inductive Service where
  | reader
  | writer
  | importer
  | exporter
  | model
deriving DecidableEq, Inhabited

/-- All services in the order in which they are connected. -/
def Service.all : List Service := [reader, writer, importer, exporter, model]

def Service.name : Service → String
  | reader => "reader"
  | writer => "writer"
  | importer => "importer"
  | exporter => "exporter"
  | model => "model"

structure DirectoryConfig where
  base : Option Config
  own : Service → Option Config

/-- The connections of a directory, in the order in which they were made. -/
structure DirectoryClient (κ : Type) where
  connections : List (Service × κ)

namespace DirectoryConfig

def sections (config : DirectoryConfig) : List Config :=
  (config.base :: Service.all.map config.own).filterMap id

def section? (config : DirectoryConfig) (service : Service) : Option Config :=
  (config.own service).or config.base

/-- Refuses a directory without sections, and the first section that contradicts itself. -/
def validate (config : DirectoryConfig) : Except ConfigError Unit :=
  if config.sections.isEmpty then .error .emptyDirectory
  else config.sections.forM Config.validate

/-- Reads the settings of a directory. Every section may be missing or null. -/
def read? (doc : Json.Document) : Option DirectoryConfig := do
  let section? := withDefault (nullable Config.read?) none
  match ← doc.fields? ("base" :: Service.all.map Service.name) true with
  | [base, reader, writer, importer, exporter, model] =>
    let base ← section? base
    let reader ← section? reader
    let writer ← section? writer
    let importer ← section? importer
    let exporter ← section? exporter
    let model ← section? model
    some ⟨base, fun
      | .reader => reader
      | .writer => writer
      | .importer => importer
      | .exporter => exporter
      | .model => model⟩
  | _ => none

/-- The JSON form; a missing section is null. -/
def toJson (config : DirectoryConfig) : Json :=
  let write : Option Config → Json := fun
    | none => .null
    | some config => config.toJson
  .object (("base", write config.base) ::
    Service.all.map fun service => (service.name, write (config.own service)))

variable {σ κ : Type}

/-- Connects services one after the other, up to the first failure. -/
def connectAll (connector : Connector σ κ) (config : DirectoryConfig) :
    List Service → Pool σ κ → Except ConfigError (List (Service × κ)) × Pool σ κ
  | [], pool => (.ok [], pool)
  | service :: rest, pool =>
    match config.section? service with
    | none => connectAll connector config rest pool
    | some settings =>
      match pool.get connector settings with
      | (.error error, pool) => (.error error, pool)
      | (.ok connection, pool) =>
        match connectAll connector config rest pool with
        | (.error error, pool) => (.error error, pool)
        | (.ok connections, pool) => (.ok ((service, connection) :: connections), pool)

def connect (connector : Connector σ κ) (config : DirectoryConfig) (pool : Pool σ κ) :
    Except ConfigError (DirectoryClient κ) × Pool σ κ :=
  match config.validate with
  | .error error => (.error error, pool)
  | .ok () =>
    match connectAll connector config Service.all pool with
    | (.error error, pool) => (.error error, pool)
    | (.ok connections, pool) => (.ok ⟨connections⟩, pool)

theorem connect_of_invalid (connector : Connector σ κ) {config : DirectoryConfig}
    {error : ConfigError} (h : config.validate = .error error) (pool : Pool σ κ) :
    config.connect connector pool = (.error error, pool) := by
  simp [connect, h]

end DirectoryConfig

namespace DirectoryClient

variable {κ : Type}

def get? (directory : DirectoryClient κ) (service : Service) : Option κ :=
  (directory.connections.find? fun entry => entry.1 == service).map (·.2)

end DirectoryClient

end AccessControl.Client
