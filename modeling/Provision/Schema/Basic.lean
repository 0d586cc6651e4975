import Provision.Platform
import Provision.Resource
import Provision.Value.Basic

/-!
# Module schemas

A module is a kind of step, and its schema says how the step becomes documents: which raw parameters
it knows and under which backend keys they go, which states it can be in, which modules it requires
first, and which modules it triggers afterwards.
-/

namespace Provision

/-- A module that has to be converted first, with the parameters it gets. -/
structure Prerequisite where
  module : String
  parameters : Parameters
deriving DecidableEq

/-- An attribute that a trigger passes on: where its value comes from and under which key it
goes. -/
structure TriggerAttribute where
  /-- A raw parameter, or a template of `$parameter` words. -/
  source : String
  /-- The backend key; an empty one passes nothing on. -/
  target : String
deriving DecidableEq

/-- A module that is run when the step's documents are done. -/
structure Trigger where
  module : String
  /-- What it gets. -/
  attributes : List TriggerAttribute
deriving DecidableEq

/-- How the steps of a module become documents. -/
structure Schema where
  id : String
  resourceType : ResourceType
  /-- The backend key of each raw parameter it knows. -/
  attributes : Table String
  /-- The states it declares; the first is the default. -/
  states : List String
  /-- The package manager it is bound to. -/
  packageManager : Option PackageManager := none
  requires : List Prerequisite := []
  triggers : List Trigger := []
deriving DecidableEq

namespace Schema

/-- The first state, or the empty text if there is none. -/
def defaultState (s : Schema) : String := s.states.headD ""

/-- Whether a state is declared. -/
def hasState (s : Schema) (state : String) : Bool := s.states.contains state

/-- The backend key of a raw parameter. -/
def backendKey? (s : Schema) (raw : String) : Option String := s.attributes.get? raw

/-- The raw parameter of a backend key, the first in key order if there are several. -/
def rawKey? (s : Schema) (backend : String) : Option String :=
  (s.attributes.entries.find? fun e => e.2 == backend).map (·.1)

/-- Whether a host with a package manager can run the module. -/
def runsWith (s : Schema) (pm : PackageManager) : Bool :=
  match s.packageManager with
  | none => true
  | some own => own == pm

/-- The modules that the schema names, required ones first. -/
def references (s : Schema) : List String :=
  s.requires.map (·.module) ++ s.triggers.map (·.module)

end Schema

/-- What is wrong with the schemas of a registry, or with the text they were read from. -/
inductive RegistryError where
  | noStates (module : String)
  | noAttributes (module : String)
  /-- Two raw parameters of a module go under one backend key. -/
  | duplicateBackendKey (module key : String)
  /-- A module names a module that is not registered. -/
  | unknownReference (module reference : String)
  /-- Modules require each other in a circle; the path ends with the module it begins with. -/
  | cycle (path : List String)
  | duplicateModule (module : String)
  /-- The text is not a registry. -/
  | malformed (reason : String)
  | unreadable (reason : String)
deriving DecidableEq

/-- The wording of a registry error. -/
def RegistryError.message : RegistryError → String
  | .noStates m => s!"Module {m} declares no states"
  | .noAttributes m => s!"Module {m} declares no attributes"
  | .duplicateBackendKey m key => s!"Module {m} maps more than one attribute to '{key}'"
  | .unknownReference m r => s!"Module {m} references unknown module {r}"
  | .cycle path => "Prerequisite cycle: " ++ " -> ".intercalate path
  | .duplicateModule m => s!"Invalid registry format: Duplicate module: {m}"
  | .malformed reason => s!"Invalid registry format: {reason}"
  | .unreadable reason => s!"Failed to read registry: {reason}"

namespace Schema

/-- The first text that occurs earlier in a list. -/
def firstRepeat? (seen : List String) : List String → Option String
  | [] => none
  | k :: rest => if k ∈ seen then some k else firstRepeat? (k :: seen) rest

/-- Checks what a schema has to satisfy by itself: a state, an attribute, no backend key twice. -/
def check (s : Schema) : Except RegistryError Unit :=
  if s.states.isEmpty then .error (.noStates s.id)
  else if s.attributes.isEmpty then .error (.noAttributes s.id)
  else match firstRepeat? [] s.attributes.values with
    | some key => .error (.duplicateBackendKey s.id key)
    | none => .ok ()

end Schema

end Provision
