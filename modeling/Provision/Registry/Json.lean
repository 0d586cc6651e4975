import Provision.Json.Printer
import Provision.Registry.Check
import Provision.Schema.Json

/-!
# Registries as JSON

A registry file is an object with a list of schemas. Reading one checks each schema as it comes,
refuses a module that comes twice, and checks the whole. Writing one lists the schemas by id.
-/

namespace Provision.Registry

/-- Adds schemas one by one, each of them sound by itself and new. -/
def addAll (r : Registry) : List Schema → Except RegistryError Registry
  | [] => .ok r
  | s :: rest => do
    s.check
    if r.contains s.id then .error (.duplicateModule s.id)
    else addAll (r.register s) rest

/-- The sound registry of a list of schemas in which no module comes twice. -/
def ofSchemas (l : List Schema) : Except RegistryError Registry := do
  let r ← addAll ∅ l
  r.check
  return r

/-- Reads the schemas of a registry file. -/
def schemasOfSource : Json.Reading (List Schema) := fun s => do
  let members ← Json.record ["modules"] s
  Json.required members "modules" (Json.listOf Schema.ofSource)

/-- Reads the text of a registry file. -/
def ofText (text : String) : Except RegistryError Registry :=
  match Json.readText schemasOfSource text with
  | .ok l => ofSchemas l
  | .error fault => .error (.malformed fault.message)

/-- The tree of a registry file with some schemas. -/
def fileOf (l : List Schema) : Json := .obj [("modules", .arr (l.map Schema.toJson))]

/-- The tree of a registry file. -/
def toJson (r : Registry) : Json := fileOf r.all

/-- The text of a registry file. -/
def toText (r : Registry) : String := r.toJson.pretty

end Provision.Registry
