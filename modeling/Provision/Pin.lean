import Provision.Conversion.Error
import Provision.Document.Basic
import Provision.Text.Blank

/-!
# Version pins

A gem or pip document lists packages, and an entry with two equals signs pins one to a version. Such
an entry cannot stay in a batch: `DocumentMap.expand` takes it out and gives it a map of its own,
with a document for the one package and the documents that the batch refers to. The maps of the pins
come first, by tag and place in the list, and the rest of the batches last.
-/

namespace Provision

/-- The texts before and after the first two equals signs. -/
def splitPin : List Char → Option (List Char × List Char)
  | '=' :: '=' :: version => some ([], version)
  | c :: cs => (splitPin cs).map fun (name, version) => (c :: name, version)
  | [] => none

/-- Whether a list entry pins a package to a version. -/
def Value.isPinned : Value → Bool
  | .str entry => (splitPin entry.toList).isSome
  | _ => false

/-- A package and its version. -/
structure Pin where
  package : String
  version : String
deriving DecidableEq

/-- Reads a pin; both parts have to say something. -/
def Pin.ofEntry (entry : String) : Except ConvertError Pin :=
  match splitPin entry.toList with
  | some (package, version) =>
    let package := Text.trim package
    let version := Text.trim version
    if package.isEmpty ∨ version.isEmpty then .error (.expandFailure (.invalidPin entry))
    else .ok ⟨String.ofList package, String.ofList version⟩
  | none => .error (.expandFailure (.invalidPin entry))

namespace Document

/-- The attribute that lists packages. -/
def namesKey : String := "names"

/-- The list of packages of a gem or pip document. -/
def batch? (d : Document) : Option (List Value) :=
  if d.resourceType.isVersionAware then (d.attributes.get? namesKey).bind Value.items? else none

/-- The document of one pinned package of a batch: the batch's attributes that are no lists, and the
package as the name, with the version beside it or within. -/
def isolated (d : Document) (entry : String) (pin : Pin) : Document :=
  let shared := d.attributes.filter fun _ v => !v.isList
  let attributes :=
    if d.resourceType.splitsVersion then
      (shared.insert "name" (.str pin.package)).insert "version" (.str pin.version)
    else shared.insert "name" (.str entry)
  { d with attributes, watches := [] }

/-- The document without the pinned entries of its list. -/
def unpinned (d : Document) (names : List Value) : Document :=
  { d with attributes := d.attributes.insert namesKey (.list (names.filter (!·.isPinned))) }

end Document

namespace DocumentMap

/-- The documents of a map that a document refers to. -/
def targets (m : DocumentMap) (d : Document) : DocumentMap :=
  .ofList (d.edges.filterMap fun e => (m.get? e.tag).map (e.tag, ·))

/-- The map of one pinned entry. -/
def isolate (m : DocumentMap) (tag : String) (d : Document) (entry : String) :
    Except ConvertError DocumentMap := do
  let pin ← Pin.ofEntry entry
  return (m.targets d).insert (tag ++ "_" ++ entry) (d.isolated entry pin)

/-- The maps of the pinned entries of one document, and what is left of the map. -/
def expandAt (m : DocumentMap) (tag : String) (d : Document) :
    Except ConvertError (List DocumentMap × DocumentMap) :=
  match d.batch? with
  | none => .ok ([], m)
  | some names =>
    let pins := (names.filter (·.isPinned)).filterMap Value.text?
    if pins.isEmpty then .ok ([], m)
    else do
      let isolated ← pins.mapM (m.isolate tag d)
      return (isolated, m.insert tag (d.unpinned names))

/-- Expands the documents of a list one after another, each in what the ones before have left. -/
def expandEach (m : DocumentMap) : List (String × Document) →
    Except ConvertError (List DocumentMap × DocumentMap)
  | [] => .ok ([], m)
  | (tag, d) :: rest => do
    let (isolated, m) ← m.expandAt tag d
    let (more, m) ← expandEach m rest
    return (isolated ++ more, m)

/-- Takes all version pins out of a map of documents. -/
def expand (m : DocumentMap) : Except ConvertError (List DocumentMap) :=
  if m.isEmpty then .error (.expandFailure .noDocuments)
  else do
    let (isolated, rest) ← m.expandEach m.entries
    return isolated ++ [rest]

end DocumentMap

end Provision
