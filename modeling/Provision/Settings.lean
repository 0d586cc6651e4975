import Provision.Conversion.Basic
import Provision.Files
import Provision.Json.Printer
import Provision.Registry.Json
import Provision.Text.Quoted

/-!
# Settings

A settings file may name a platform, a registry file and whether output is indented. Everything is
optional, and flags on the command line win over it.
-/

namespace Provision

/-- The settings of a run. -/
structure Settings where
  /-- The platform to convert for. -/
  platform : Option Platform := none
  /-- The registry file in place of the standard modules. -/
  registry : Option String := none
  pretty : Bool := false
deriving DecidableEq

/-- Why settings cannot be used. -/
inductive SettingsError where
  /-- The settings file cannot be read. -/
  | unreadable (path : String)
  /-- The settings file does not hold settings. -/
  | malformed
  | emptyRegistryPath
  | noRegistryFile (path : String)
  /-- The registry file does not hold a sound registry. -/
  | registryNotLoaded (path : String) (cause : RegistryError)
  /-- The registry is not sound. -/
  | registryNotSound (path : String) (cause : RegistryError)
deriving DecidableEq

/-- The wording of a settings error. -/
def SettingsError.message : SettingsError → String
  | .unreadable path => "Failed to read configuration from " ++ Text.quoted path
  | .malformed => "Failed to parse configuration JSON"
  | .emptyRegistryPath => "Registry path must not be empty"
  | .noRegistryFile path => "Registry file " ++ Text.quoted path ++ " does not exist"
  | .registryNotLoaded path _ => "Failed to load registry from " ++ Text.quoted path
  | .registryNotSound path _ => "Registry " ++ Text.quoted path ++ " is not valid"

/-- Reads a registry file. -/
def Registry.load (files : Files) (path : String) : Except RegistryError Registry :=
  match files.read path with
  | .ok text => Registry.ofText text
  | .error fault => .error (.unreadable fault.message)

namespace Settings

/-- Reads settings. -/
def ofSource : Json.Reading Settings := fun s => do
  let members ← Json.record ["platform", "registry", "pretty"] s
  let platform ← Json.optional members "platform" (Json.nullable (Json.named Platform)) none
  let registry ← Json.optional members "registry" (Json.nullable Json.text) none
  let pretty ← Json.optional members "pretty" Json.flag false
  return { platform, registry, pretty }

/-- Settings as an object; what is not set is left out. -/
def toJson (s : Settings) : Json :=
  .obj <|
    (match s.platform with
      | some p => [("platform", .str (Named.name p))]
      | none => []) ++
    (match s.registry with
      | some path => [("registry", .str path)]
      | none => []) ++
    [("pretty", .bool s.pretty)]

/-- Settings as they are saved. -/
def toText (s : Settings) : String := s.toJson.pretty

/-- Loads a settings file. -/
def load (files : Files) (path : String) : Except SettingsError Settings :=
  match files.read path with
  | .error _ => .error (.unreadable path)
  | .ok text =>
    match Json.readText ofSource text with
    | .ok s => .ok s
    | .error _ => .error .malformed

/-- Checks that the registry file, if one is named, is there. -/
def check (files : Files) (s : Settings) : Except SettingsError Unit :=
  match s.registry with
  | none => .ok ()
  | some path =>
    if path = "" then .error .emptyRegistryPath
    else if !files.isFile path then .error (.noRegistryFile path)
    else .ok ()

/-- The converter of the registry file, or of the standard modules if none is named. -/
def converter (files : Files) (s : Settings) : Except SettingsError Converter :=
  match s.registry with
  | none => .ok .standard
  | some path =>
    match Registry.load files path with
    | .error e => .error (.registryNotLoaded path e)
    | .ok r =>
      match Converter.ofRegistry r with
      | .error e => .error (.registryNotSound path e)
      | .ok c => .ok c

end Settings

end Provision
