import Provision.Cli.Invocation
import Provision.Plan
import Provision.Settings

/-!
# Running a command

A run is a function of the arguments and the files: what it writes and the exit code (`Cli.run`).
Code 0 is success, 1 a failure of the command, 2 a misuse of the command line, which writes nothing
to the output.
-/

namespace Provision.Cli

/-- What a run leaves behind. -/
structure Report where
  exit : Nat
  output : String
  messages : String
deriving DecidableEq

/-- Why a command ends without a result of its own. -/
inductive Failure where
  /-- The settings cannot be used. -/
  | settings (cause : SettingsError)
  | noPlatform
  /-- The parameter file cannot be read. -/
  | unreadableParameters (path : String)
  /-- The parameters are not JSON. -/
  | malformedParameters
  /-- The plan cannot be loaded. -/
  | planNotLoaded (path : String)
deriving DecidableEq

/-- The wording of a failure. -/
def Failure.message : Failure → String
  | .settings cause => cause.message
  | .noPlatform => "No platform given; pass --platform or set it in the config file"
  | .unreadableParameters path => "Failed to read parameters from " ++ Text.quoted path
  | .malformedParameters => "Failed to parse parameters JSON"
  | .planNotLoaded path => "Failed to load plan from " ++ Text.quoted path

/-- The name and the version of the program. -/
def versionLine : String := "state-adaptor 1.0.0"

/-- A tree on lines of its own. -/
def written (pretty : Bool) (j : Json) : String :=
  (if pretty then j.pretty else j.compact) ++ "\n"

/-- The report of a success. -/
def succeed (output : String) : Report := ⟨0, output, ""⟩

/-- The report of a failure of the command, with the output up to it. -/
def failWith (output message : String) : Report := ⟨1, output, message ++ "\n"⟩

/-- The settings of a run, checked. -/
def settingsOf (files : Files) (config : Option String) : Except SettingsError Settings :=
  match config with
  | none => .ok {}
  | some path => do
    let s ← Settings.load files path
    s.check files
    return s

/-- The converter of a run; a registry given on the command line wins over the settings. -/
def converterOf (files : Files) (s : Settings) (registry : Option String) :
    Except SettingsError Converter :=
  match registry with
  | none => s.converter files
  | some path => do
    let s := { s with registry := some path }
    s.check files
    s.converter files

/-- The parameters of a step. -/
def parametersOf (files : Files) : ParameterSource → Except Failure Value
  | .nowhere => .ok (.map [])
  | .inline text => parsed text
  | .file path =>
    match files.read path with
    | .ok text => parsed text
    | .error _ => .error (.unreadableParameters path)
where
  /-- The parameters in a text. -/
  parsed (text : String) : Except Failure Value :=
    match Json.readText Json.value text with
    | .ok v => .ok v
    | .error _ => .error .malformedParameters

/-- The plan in a file. -/
def planOf (files : Files) (path : String) : Except Failure Plan :=
  match files.read path with
  | .error _ => .error (.planNotLoaded path)
  | .ok text =>
    match Plan.ofText text with
    | .ok plan => .ok plan
    | .error _ => .error (.planNotLoaded path)

/-- A text with spaces behind it up to a width. -/
def padRight (width : Nat) (s : String) : String :=
  String.ofList (s.toList ++ List.replicate (width - s.length) ' ')

/-- The line of a module in the list. -/
def moduleLine (s : Schema) : String :=
  padRight 24 s.id ++ " " ++ padRight 16 (Named.name s.resourceType) ++ " " ++
    ", ".intercalate s.states ++ "\n"

/-- Runs a command under its settings. -/
def runCommand (files : Files) (s : Settings) (pretty : Bool) : Command → Except Failure Report
  | .convert step module platform parameters registry => do
    let converter ← (converterOf files s registry).mapError .settings
    match platform <|> s.platform.map Named.name with
    | none => .error .noPlatform
    | some platform =>
      let parameters ← parametersOf files parameters
      match converter.convertValue step module parameters platform with
      | .ok documents => return succeed (written pretty (DocumentMap.listToJson documents))
      | .error e =>
        return failWith "" s!"✗ Conversion failed ({Named.name e.kind}): {e.message}"
  | .plan path registry => do
    let converter ← (converterOf files s registry).mapError .settings
    let plan ← planOf files path
    let outcomes := converter.convertPlan plan
    let output := written pretty (.arr (outcomes.map Outcome.toJson))
    let failed := outcomes.countP (!·.isConverted)
    return if failed = 0 then succeed output
      else failWith output s!"✗ {failed} of {outcomes.length} steps failed"
  | .modules registry => do
    let converter ← (converterOf files s registry).mapError .settings
    return succeed (String.join (converter.registry.all.map moduleLine))
  | .validateRegistry path =>
    match Registry.load files path with
    | .ok r => .ok (succeed s!"✓ Registry is valid: {r.size} modules\n")
    | .error e => .ok (failWith "" s!"✗ Registry validation failed: {e.message}")

/-- Runs an invocation. -/
def runInvocation (files : Files) (i : Invocation) : Report :=
  let result : Except Failure Report := do
    let s ← (settingsOf files i.config).mapError .settings
    runCommand files s (i.pretty || s.pretty) i.command
  match result with
  | .ok report => report
  | .error failure => failWith "" s!"Error: {failure.message}"

/-- The one line about how the program is called. -/
def usage : String := "Usage: state-adaptor [OPTIONS] <COMMAND>\n"

/-- Runs the program. -/
def run (files : Files) (args : List String) : Report :=
  match Invocation.ofArguments args with
  | .ok i => runInvocation files i
  | .error .misuse => ⟨2, "", usage⟩
  | .error .help => succeed usage
  | .error .version => succeed (versionLine ++ "\n")

end Provision.Cli
