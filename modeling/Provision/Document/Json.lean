import Provision.Document.Basic
import Provision.Json.Basic

/-!
# Documents as JSON

A document is an object whose first member has the resource type as its name and holds the state,
the attributes and the edge lists that are not empty. The scope takes two more members. A
conversion's result is an array of objects, one document a tag.
-/

namespace Provision

/-- An edge as an object of one member, from the type to the tag. -/
def Edge.toJson (e : Edge) : Json := .obj [(Named.name e.resourceType, .str e.tag)]

/-- A list of edges under its name, left out if it is empty. -/
def Edge.listToJson (name : String) (l : List Edge) : List Json :=
  if l.isEmpty then [] else [.obj [(name, .arr (l.map Edge.toJson))]]

/-- The members that tell the scope. -/
def Scope.toMembers (s : Scope) : List (String × Json) :=
  [("__env__", .str s.env), ("__sls__", .str s.group)]

/-- A document as an object. -/
def Document.toJson (d : Document) : Json :=
  let parts := [.str d.state, d.attributes.toJson Value.toJson] ++
    Edge.listToJson "require" d.requires ++ Edge.listToJson "require_in" d.requiredBy ++
    Edge.listToJson "watch" d.watches
  .obj ((Named.name d.resourceType, .arr parts) :: (d.scope.map Scope.toMembers).getD [])

/-- A map of documents as an object. -/
def DocumentMap.toJson (m : DocumentMap) : Json := Table.toJson Document.toJson m

/-- The maps of a conversion as an array. -/
def DocumentMap.listToJson (l : List DocumentMap) : Json := .arr (l.map toJson)

end Provision
