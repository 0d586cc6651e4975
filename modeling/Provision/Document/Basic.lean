import Provision.Resource
import Provision.Value.Basic

/-!
# Documents

A document describes one resource in one state. Documents stand in a map by tag and refer to each
other by edges: what has to be there before, what has to come after, what is watched.
-/

namespace Provision

/-- A reference to a document of the same map. -/
structure Edge where
  resourceType : ResourceType
  tag : String
deriving DecidableEq

/-- Where a document that others run in belongs. -/
structure Scope where
  env : String
  group : String
deriving DecidableEq

/-- The scope of all documents around triggers. -/
def Scope.shared : Scope := ⟨"base", "state_adaptor"⟩

/-- One resource in one state. -/
structure Document where
  resourceType : ResourceType
  state : String
  /-- What the state needs to know. -/
  attributes : Attributes
  /-- The documents that have to be in place before. -/
  requires : List Edge := []
  /-- The documents that this one has to be in place for. -/
  requiredBy : List Edge := []
  /-- The documents whose changes matter to this one. -/
  watches : List Edge := []
  /-- The scope, if the document has one. -/
  scope : Option Scope := none
deriving DecidableEq

/-- Documents by tag. -/
abbrev DocumentMap := Table Document

namespace Document

/-- All edges of a document. -/
def edges (d : Document) : List Edge := d.requires ++ d.requiredBy ++ d.watches

end Document

/-- One edge to each document of a map, in the order of the tags. -/
def DocumentMap.edges (m : DocumentMap) : List Edge :=
  m.entries.map fun e => ⟨e.2.resourceType, e.1⟩

end Provision
