import Provision.Conversion.Error
import Provision.Schema.Basic
import Provision.Value.Scalar

/-!
# Renaming parameters to attributes

`Schema.rename` puts every known parameter under its backend key and drops the others. A mapping
becomes a list on the way: a name with a truthy value stays a pair, a name with none stands by
itself. `Schema.restore` goes back, and makes a list into a mapping again where every entry can be a
member of it and no name occurs twice.
-/

namespace Provision

namespace Value

/-- A mapping's entry as a list's item: a pair, or the bare name if the value says nothing. -/
def ofEntry (e : String × Value) : Value := if e.2.isTruthy then .pair e.1 e.2 else .str e.1

/-- A mapping as the list of its entries; anything else as it is. -/
def listed : Value → Value
  | .map l => .list (l.map ofEntry)
  | v => v

/-- A list's item as a mapping's entry: a bare name has the empty text as its value. -/
def entry? : Value → Option (String × Value)
  | .str name => some (name, .str "")
  | .map [e] => some e
  | _ => none

/-- A list as the mapping it may have come from, if its items are distinct entries; anything else as
it is. -/
def unlisted : Value → Value
  | .list [] => .list []
  | .list l =>
    match l.mapM entry? with
    | none => .list l
    | some entries =>
      let t := Table.ofList entries
      if t.size = l.length then .ofTable t else .list l
  | v => v

end Value

namespace Schema

/-- The attribute of a parameter, if the module knows it and it is there. -/
def renameEntry (s : Schema) (e : String × Value) : Option (String × Value) :=
  if e.2.isNull then none else (s.backendKey? e.1).map (·, e.2.listed)

/-- The attributes of those parameters that the module knows. -/
def attributesOf (s : Schema) (params : Parameters) : Attributes :=
  .ofList (params.entries.filterMap s.renameEntry)

/-- Renames parameters, of which at least one has to be known. -/
def rename (s : Schema) (params : Parameters) : Except ConvertError Attributes :=
  let attributes := s.attributesOf params
  if attributes.isEmpty then .error (.emptyMapping s.id) else .ok attributes

/-- The parameter of an attribute, if the module has one. -/
def restoreEntry (s : Schema) (e : String × Value) : Option (String × Value) :=
  (s.rawKey? e.1).map (·, e.2.unlisted)

/-- The parameters that attributes came from. -/
def restore (s : Schema) (attributes : Attributes) : Parameters :=
  .ofList (attributes.entries.filterMap s.restoreEntry)

end Schema

end Provision
