import Provision.Conversion.Stage
import Provision.Json.Printer
import Provision.Named

/-!
# Why a conversion fails

A conversion error is a cause. Its kind tells the phase that refused the step, and
`ConvertError.message` holds the wording of every cause.
-/

namespace Provision

/-- Why a request is refused before anything is converted. -/
inductive InvalidInput where
  | emptyStep
  /-- The module name is not a sequence of segments between dots. -/
  | malformedModule (module : String)
  | unsupportedPlatform (platform : String)
  | notAMapping (module : String) (parameters : Value)
deriving DecidableEq

/-- Why attributes cannot be sorted into states. -/
inductive BuildFault where
  /-- There is no state to put anything into. -/
  | noBucket
  /-- The package attribute is neither a list nor a text. -/
  | notAPackageList (key : String) (value : Value)
  | noPackages (key : String)
  /-- A package is paired with a collection. -/
  | nonScalarState (package : String) (value : Value)
  /-- An entry of the package list is no name. -/
  | invalidEntry (key : String) (value : Value)
  /-- A repository module is bound to no package manager. -/
  | unboundRepository
  /-- A gem source has no address. -/
  | missingSource
  /-- A path that is to be absent has no name. -/
  | absentWithoutName
  /-- A file mode is no integer. -/
  | invalidMode (value : Value)
  /-- An attribute is no integer. -/
  | notANumber (key : String) (value : Value)
deriving DecidableEq

/-- Why documents cannot be expanded. -/
inductive ExpandFault where
  /-- There are none. -/
  | noDocuments
  /-- A version pin lacks the package or the version. -/
  | invalidPin (entry : String)
deriving DecidableEq

/-- Why a conversion stops at a fault of its own. -/
inductive InternalFault where
  /-- A stage was left for one that does not follow it. -/
  | invalidTransition (source target : Stage)
  /-- Prerequisites require each other too deeply. -/
  | tooDeep (limit : Nat)
deriving DecidableEq

/-- Why a conversion fails. -/
inductive ConvertError where
  /-- The request is malformed. -/
  | invalidInput (cause : InvalidInput)
  /-- The module is not registered. -/
  | unsupportedModule (module : String)
  /-- The module belongs to another package manager than the platform's. -/
  | platformConflict (platform module : String)
  /-- No parameter is one of the module's. -/
  | emptyMapping (module : String)
  /-- The attributes could not be sorted into states. -/
  | buildFailure (module : String) (cause : BuildFault)
  /-- The documents could not be expanded. -/
  | expandFailure (cause : ExpandFault)
  /-- The conversion went wrong by itself. -/
  | internal (stage : Stage) (cause : InternalFault)
deriving DecidableEq

/-- The kind of a conversion error. -/
inductive ErrorKind where
  | invalidInput
  | unsupportedModule
  | platformConflict
  | emptyMapping
  | buildFailure
  | expandFailure
  | internal
deriving DecidableEq, Repr

instance : Named ErrorKind where
  all := [.invalidInput, .unsupportedModule, .platformConflict, .emptyMapping, .buildFailure,
    .expandFailure, .internal]
  name
    | .invalidInput => "invalid_input"
    | .unsupportedModule => "unsupported_module"
    | .platformConflict => "platform_conflict"
    | .emptyMapping => "empty_mapping"
    | .buildFailure => "build_failure"
    | .expandFailure => "expand_failure"
    | .internal => "internal"

/-- A value inside a message. -/
def Value.jsonText (v : Value) : String := v.toJson.compact

namespace InvalidInput

/-- The wording of a cause. -/
def message : InvalidInput → String
  | .emptyStep => "step id is empty"
  | .malformedModule m => s!"malformed module name '{m}'"
  | .unsupportedPlatform p => s!"unsupported platform '{p}'"
  | .notAMapping m v => s!"parameters of module {m} must be a mapping, got {v.jsonText}"

end InvalidInput

namespace BuildFault

/-- The wording of a cause. -/
def message : BuildFault → String
  | .noBucket => "no state bucket produced"
  | .notAPackageList key v => s!"'{key}' must be a package list, got {v.jsonText}"
  | .noPackages key => s!"no packages given in '{key}'"
  | .nonScalarState name v => s!"package '{name}' has a non-scalar state or version: {v.jsonText}"
  | .invalidEntry key v => s!"invalid entry in '{key}': {v.jsonText}"
  | .unboundRepository => "repository module is not bound to a package manager"
  | .missingSource => "gem source url is missing"
  | .absentWithoutName => "absent path has no name"
  | .invalidMode v => s!"invalid mode {v.jsonText}"
  | .notANumber key v => s!"'{key}' is not a number: {v.jsonText}"

end BuildFault

namespace ExpandFault

/-- The wording of a cause. -/
def message : ExpandFault → String
  | .noDocuments => "no documents to expand"
  | .invalidPin entry => s!"invalid version pin '{entry}'"

end ExpandFault

namespace InternalFault

/-- The wording of a cause. -/
def message : InternalFault → String
  | .invalidTransition a b => s!"invalid transition from {a.description} to {b.description}"
  | .tooDeep limit => s!"prerequisites nested deeper than {limit}"

end InternalFault

namespace ConvertError

/-- The kind of an error. -/
def kind : ConvertError → ErrorKind
  | .invalidInput _ => .invalidInput
  | .unsupportedModule _ => .unsupportedModule
  | .platformConflict .. => .platformConflict
  | .emptyMapping _ => .emptyMapping
  | .buildFailure .. => .buildFailure
  | .expandFailure _ => .expandFailure
  | .internal .. => .internal

/-- The wording of an error. -/
def message : ConvertError → String
  | .invalidInput cause => s!"Invalid input: {cause.message}"
  | .unsupportedModule m => s!"Unsupported module: {m}"
  | .platformConflict p m => s!"Conflict on platform {p} and module {m}"
  | .emptyMapping m => s!"No recognized attributes for module {m}"
  | .buildFailure m cause => s!"Failed to build states for module {m}: {cause.message}"
  | .expandFailure cause => s!"Failed to expand documents: {cause.message}"
  | .internal stage cause => s!"Conversion failed during {stage.description}: {cause.message}"

end ConvertError

end Provision
