import AccessControl.Client.Directory
import AccessControl.Client.Environment
import AccessControl.Yaml.Document

/-!
# Loading configurations

A configuration is loaded from a YAML file and from the environment, whose settings come on top
member by member. A missing file counts as an empty one. What is read is validated; anything that
is not a mapping of known fields of the right types cannot be loaded.
-/

namespace AccessControl.Client

def layered? (file : Option String) (settings : Json) : Option Json :=
  match (file.map Yaml.read?).getD (some none) with
  | some none => some (Environment.merge (.object []) settings)
  | some (some (.object members)) => some (Environment.merge (.object members) settings)
  | _ => none

def loadWith {α : Type} (read? : Json.Document → Option α) (validate : α → Except ConfigError Unit)
    (file : Option String) (settings : Json) : Except ConfigError α :=
  match ((layered? file settings).map Json.Document.ofValue).bind read? with
  | none => .error .unloadable
  | some loaded => (validate loaded).map fun () => loaded

def Config.load (file : Option String) (start : String) (environment : List (String × String)) :
    Except ConfigError Config :=
  loadWith Config.read? Config.validate file (Environment.settings start none environment)

/-- Loads the configuration of a directory; two underscores lead into a section. -/
def DirectoryConfig.load (file : Option String) (start : String)
    (environment : List (String × String)) : Except ConfigError DirectoryConfig :=
  loadWith DirectoryConfig.read? DirectoryConfig.validate file
    (Environment.settings start (some "__") environment)

end AccessControl.Client
