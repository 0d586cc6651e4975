import Provision.Json.Record
import Provision.Schema.Basic

/-!
# Schemas as JSON

`Schema.toJson` writes the members in a fixed order and leaves out a package manager, requirements
and triggers that are not there; `Schema.ofSource` takes what is left out as not there. The check of
a schema is not part of the reading.
-/

namespace Provision

namespace Prerequisite

/-- A prerequisite as an object. -/
def toJson (p : Prerequisite) : Json :=
  .obj [("module", .str p.module), ("parameters", p.parameters.toJson Value.toJson)]

/-- Reads a prerequisite; its parameters may be left out. -/
def ofSource : Json.Reading Prerequisite := fun s => do
  let members ← Json.record ["module", "parameters"] s
  let module ← Json.required members "module" Json.text
  let parameters ← Json.optional members "parameters" Json.valueTable ∅
  return { module, parameters }

end Prerequisite

namespace TriggerAttribute

/-- A trigger's attribute as an object. -/
def toJson (a : TriggerAttribute) : Json :=
  .obj [("source", .str a.source), ("target", .str a.target)]

/-- Reads a trigger's attribute. -/
def ofSource : Json.Reading TriggerAttribute := fun s => do
  let members ← Json.record ["source", "target"] s
  let source ← Json.required members "source" Json.text
  let target ← Json.required members "target" Json.text
  return { source, target }

end TriggerAttribute

namespace Trigger

/-- A trigger as an object. -/
def toJson (t : Trigger) : Json :=
  .obj [("module", .str t.module), ("attributes", .arr (t.attributes.map TriggerAttribute.toJson))]

/-- Reads a trigger. -/
def ofSource : Json.Reading Trigger := fun s => do
  let members ← Json.record ["module", "attributes"] s
  let module ← Json.required members "module" Json.text
  let attributes ← Json.required members "attributes" (Json.listOf TriggerAttribute.ofSource)
  return { module, attributes }

end Trigger

namespace Schema

/-- The members of a schema that are there only if they say something. -/
def optionalMembers (s : Schema) : List (String × Json) :=
  (match s.packageManager with
    | some pm => [("package_manager", .str (Named.name pm))]
    | none => []) ++
  (if s.requires.isEmpty then [] else [("require", .arr (s.requires.map Prerequisite.toJson))]) ++
  (if s.triggers.isEmpty then [] else [("require_in", .arr (s.triggers.map Trigger.toJson))])

/-- A schema as an object. -/
def toJson (s : Schema) : Json :=
  .obj ([("id", .str s.id), ("type", .str (Named.name s.resourceType)),
    ("attributes", s.attributes.toJson .str), ("states", .strings s.states)] ++ s.optionalMembers)

/-- Reads a schema. -/
def ofSource : Json.Reading Schema := fun s => do
  let members ← Json.record
    ["id", "type", "attributes", "states", "package_manager", "require", "require_in"] s
  let id ← Json.required members "id" Json.text
  let resourceType ← Json.required members "type" (Json.named ResourceType)
  let attributes ← Json.required members "attributes" (Json.tableOf Json.text)
  let states ← Json.required members "states" (Json.listOf Json.text)
  let packageManager ←
    Json.optional members "package_manager" (Json.nullable (Json.named PackageManager)) none
  let requires ← Json.optional members "require" (Json.listOf Prerequisite.ofSource) []
  let triggers ← Json.optional members "require_in" (Json.listOf Trigger.ofSource) []
  return { id, resourceType, attributes, states, packageManager, requires, triggers }

end Schema

end Provision
