import Provision.Schema.Basic
import Provision.Table.Lemmas

/-!
# Registries

A registry holds the schemas of the modules that can be converted, one for each id. That a schema is
filed under its own id is part of the type.
-/

namespace Provision

/-- The schemas of all known modules, by id. -/
structure Registry where
  schemas : Table Schema
  /-- Every schema is filed under its id. -/
  keyed : ∀ e ∈ schemas.entries, e.1 = e.2.id
deriving DecidableEq

namespace Registry

/-- The registry without modules. -/
def empty : Registry := ⟨∅, by simp [EmptyCollection.emptyCollection, Table.empty]⟩

instance : EmptyCollection Registry := ⟨empty⟩

/-- The registry with a schema, in place of the one that had its id. -/
def register (r : Registry) (s : Schema) : Registry where
  schemas := r.schemas.insert s.id s
  keyed e he := by
    rcases Table.mem_insert.1 he with rfl | ⟨-, h⟩
    · rfl
    · exact r.keyed e h

/-- The registry of a list of schemas; of several with one id the last counts. -/
def ofList (l : List Schema) : Registry := l.foldl register empty

/-- The schema of a module. -/
def get? (r : Registry) (module : String) : Option Schema := r.schemas.get? module

/-- Whether a module is registered. -/
def contains (r : Registry) (module : String) : Bool := r.schemas.contains module

/-- The number of modules. -/
def size (r : Registry) : Nat := r.schemas.size

/-- The ids of all modules, in their order. -/
def ids (r : Registry) : List String := r.schemas.keys

/-- The schemas of all modules, in the order of their ids. -/
def all (r : Registry) : List Schema := r.schemas.values

theorem id_of_get? {r : Registry} {m : String} {s : Schema} (h : r.get? m = some s) : s.id = m :=
  (r.keyed _ (Table.get?_eq_some_iff.1 h)).symm

end Registry

end Provision
