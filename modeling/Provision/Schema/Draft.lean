import Provision.Schema.Basic

/-!
# Drafts of schemas

A schema is put together from parts, one at a time. `Draft.add` adds a part: attributes are keyed by
their raw name, states and package manager replace what was declared before, prerequisites are
listed as they come, and triggers are grouped, so that a module has one trigger, which collects
every attribute passed to it. `Draft.build` gives the schema if it passes its check.
-/

namespace Provision

/-- A schema that is being put together. It is not checked yet. -/
structure Draft where
  schema : Schema
deriving DecidableEq

namespace Draft

/-- A part of a schema, as it is declared. -/
inductive Part where
  /-- A raw parameter has a backend key. -/
  | parameter (raw backend : String)
  | states (states : List String)
  /-- The module is bound to a package manager. -/
  | packageManager (pm : PackageManager)
  /-- A module is required with one parameter. -/
  | requirement (module name : String) (value : Value)
  /-- A module is triggered with one attribute. -/
  | trigger (module : String) (a : TriggerAttribute)

/-- The draft of a module without any part. -/
def ofModule (id : String) (resourceType : ResourceType) : Draft :=
  ⟨{ id, resourceType, attributes := ∅, states := [] }⟩

/-- Adds an attribute to the trigger of a module, which is new if the module has none. -/
def addTrigger (module : String) (a : TriggerAttribute) : List Trigger → List Trigger
  | [] => [⟨module, [a]⟩]
  | t :: rest =>
    if t.module = module then { t with attributes := t.attributes ++ [a] } :: rest
    else t :: addTrigger module a rest

/-- Adds a part. -/
def add (d : Draft) : Part → Draft
  | .parameter raw backend =>
    ⟨{ d.schema with attributes := d.schema.attributes.insert raw backend }⟩
  | .states states => ⟨{ d.schema with states }⟩
  | .packageManager pm => ⟨{ d.schema with packageManager := some pm }⟩
  | .requirement module name value =>
    ⟨{ d.schema with requires := d.schema.requires ++ [⟨module, .singleton name value⟩] }⟩
  | .trigger module a =>
    ⟨{ d.schema with triggers := addTrigger module a d.schema.triggers }⟩

/-- The draft of a module with some parts, added in their order. -/
def ofParts (id : String) (resourceType : ResourceType) (parts : List Part) : Draft :=
  parts.foldl add (ofModule id resourceType)

/-- The schema, if it passes its check. -/
def build (d : Draft) : Except RegistryError Schema := do
  d.schema.check
  return d.schema

end Draft

end Provision
