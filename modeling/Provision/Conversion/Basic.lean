import Provision.Conversion.Context
import Provision.Handler.Standard
import Provision.Pin
import Provision.Registry.Check
import Provision.Registry.Standard
import Provision.Renaming
import Provision.Trigger

/-!
# Conversion

A converter turns a step into documents. It is made from a sound registry (`Converter.ofRegistry`),
and without one it knows the standard modules (`Converter.standard`). `Converter.compile` renames
the parameters, sorts them into states, converts the prerequisites, and puts own documents, triggers
and prerequisites into one map; `Converter.convert` checks the request before and takes version pins
apart after.

Prerequisites are modules too, so compiling calls itself. `compileWith` has the conversion of a
prerequisite as a parameter and `compileAt` ties the knot: at room `n + 1` it converts prerequisites
at room `n`. The context refuses to go deeper than `maxDepth`, so `compile`, which starts with that
room, never comes to the end of it.
-/

namespace Provision

/-- What a conversion needs to know. -/
structure Converter where
  registry : Registry
  handlers : HandlerTable

namespace Converter

/-- The converter of a sound registry, with the standard handlers. -/
def ofRegistry (r : Registry) : Except RegistryError Converter := do
  r.check
  return { registry := r, handlers := .standard }

/-- The converter of the standard modules. -/
def standard : Converter := { registry := .standard, handlers := .standard }

end Converter

/-- The step under which prerequisites are converted. -/
def requireStep : String := "require"

/-- Converts the parameters of a module's step into documents. -/
abbrev Compiler := String → Schema → Parameters → ConvertM DocumentMap

namespace Converter

/-- The documents of one prerequisite; none if it is not registered or cannot run on the
platform. -/
def requiredDocuments (c : Converter) (compiler : Compiler) (p : Prerequisite) :
    ConvertM DocumentMap := do
  match c.registry.get? p.module with
  | none => return ∅
  | some s =>
    if s.runsWith (← get).packageManager then
      ConvertM.nested (compiler requireStep s p.parameters)
    else return ∅

/-- The documents of several prerequisites in one map; where tags coincide, the later document
counts. -/
def requireAll (c : Converter) (compiler : Compiler) (acc : DocumentMap) :
    List Prerequisite → ConvertM DocumentMap
  | [] => return acc
  | p :: rest => do
    let documents ← c.requiredDocuments compiler p
    c.requireAll compiler (acc.union documents) rest

/-- The documents of a module's prerequisites. -/
def resolveRequires (c : Converter) (compiler : Compiler) (s : Schema) : ConvertM DocumentMap :=
  c.requireAll compiler ∅ s.requires

/-- The own document of a state, with an edge to every prerequisite and every trigger. -/
def ownDocument (s : Schema) (requires triggers : DocumentMap) (state : String)
    (attributes : Attributes) : Document where
  resourceType := s.resourceType
  state := state
  attributes := attributes
  requires := requires.edges
  requiredBy := triggers.edges
  scope := if s.triggers.isEmpty then none else some .shared

/-- Puts everything into one map: prerequisites, over them triggers, over them own documents. -/
def assemble (s : Schema) (step : String) (requires triggers : DocumentMap) (buckets : Buckets) :
    DocumentMap :=
  (requires.union triggers).insertAll <| buckets.entries.map fun (state, attributes) =>
    (stepTag s.id step state, ownDocument s requires triggers state attributes)

/-- Compiles a step, given how prerequisites are compiled. -/
def compileWith (c : Converter) (compiler : Compiler) : Compiler := fun step s params => do
  ConvertM.enter .mapping
  let attributes ← ConvertM.ofExcept (s.rename params)
  ConvertM.enter .building
  let buckets ← ConvertM.ofExcept (c.handlers.build s attributes)
  ConvertM.enter .resolvingDeps
  let requires ← c.resolveRequires compiler s
  let triggers := s.triggerDocuments c.registry (← get).packageManager step params
  ConvertM.enter .tagging
  return assemble s step requires triggers buckets

/-- Compiles a step with room for prerequisites to be nested. -/
def compileAt (c : Converter) : Nat → Compiler
  | 0 => c.compileWith fun _ _ _ => ConvertM.refuse
  | room + 1 => c.compileWith (c.compileAt room)

/-- Compiles a step. -/
def compile (c : Converter) : Compiler := c.compileAt maxDepth

/-- The documents of a module's prerequisites. -/
def requirements (c : Converter) (s : Schema) : ConvertM DocumentMap :=
  c.resolveRequires c.compile s

/-- Compiles a step and takes its version pins apart. -/
def run (c : Converter) (step : String) (s : Schema) (params : Parameters) :
    ConvertM (List DocumentMap) := do
  let documents ← c.compile step s params
  let expanded ← ConvertM.ofExcept documents.expand
  ConvertM.enter .expanded
  return expanded

end Converter

/-- Whether a text is a module name: segments of ASCII letters, digits and underscores between
dots. -/
def isModuleName (module : String) : Bool :=
  (module.toList.splitOnP (· == '.')).all fun segment =>
    !segment.isEmpty && segment.all fun c => c.isAlphanum || c == '_'

namespace Converter

/-- Checks a request and finds the schema and the platform. -/
def check (c : Converter) (step module platform : String) :
    Except ConvertError (Schema × Platform) :=
  if Text.isBlankText step.toList then .error (.invalidInput .emptyStep)
  else if !isModuleName module then .error (.invalidInput (.malformedModule module))
  else
    match (Named.ofName? platform : Option Platform) with
    | none => .error (.invalidInput (.unsupportedPlatform platform))
    | some p =>
      match c.registry.get? module with
      | none => .error (.unsupportedModule module)
      | some s =>
        if s.runsWith p.packageManager then .ok (s, p)
        else .error (.platformConflict (Named.name p) module)

/-- Converts a step's parameters. -/
def convert (c : Converter) (step module : String) (params : Parameters) (platform : String) :
    Except ConvertError (List DocumentMap) := do
  let (s, p) ← c.check step module platform
  ((c.run step s params).run (Context.start p)).1

/-- Converts a step whose parameters have yet to be found to be a mapping. -/
def convertValue (c : Converter) (step module : String) (params : Value) (platform : String) :
    Except ConvertError (List DocumentMap) :=
  match params with
  | .map l => c.convert step module (.ofList l) platform
  | v => .error (.invalidInput (.notAMapping module v))

end Converter

end Provision
