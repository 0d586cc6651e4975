import Provision.Proofs.Table
import Provision.Registry.Standard

/-!
# Looking up modules

A registry that is made of a list of schemas with different ids has each of them under its id. The
standard schemas are such a list, in which a module comes after those that it requires. Every
package manager has its module among them, which installs packages without any further ado: it
requires and triggers nothing.
-/

namespace Provision

namespace Registry

variable {l : List Schema} {s : Schema}

theorem schemas_ofList : (ofList l).schemas = .ofList (l.map fun s => (s.id, s)) := by
  have hfold : ∀ r : Registry, (l.foldl register r).schemas
      = r.schemas.insertAll (l.map fun s => (s.id, s)) := by
    induction l with
    | nil => intro r; rfl
    | cons s l ih => intro r; exact ih (r.register s)
  exact hfold empty

/-- A schema is found under its id if no other one has it. -/
theorem get?_ofList_of_mem (h : l.Pairwise fun a b => a.id ≠ b.id) (hs : s ∈ l) :
    (ofList l).get? s.id = some s := by
  unfold get?
  rw [schemas_ofList]
  exact Table.get?_insertAll_of_mem (List.pairwise_map.2 h) (List.mem_map.2 ⟨s, hs, rfl⟩)

/-- What is looked up is on the list. -/
theorem mem_of_get?_ofList {m : String} (h : (ofList l).get? m = some s) : s ∈ l ∧ s.id = m := by
  unfold get? at h
  rw [schemas_ofList] at h
  obtain ⟨s', hs', heq⟩ := List.mem_map.1 (Table.mem_of_get?_ofList h)
  cases heq
  exact ⟨hs', rfl⟩

/-- The standard modules can be looked up. -/
theorem get?_standard_of_mem (hs : s ∈ standardSchemas) : standard.get? s.id = some s :=
  get?_ofList_of_mem (by decide +kernel) hs

/-- Where a module stands among the standard ones. -/
def place (module : String) : Nat := standardSchemas.findIdx (·.id == module)

/-- A standard module that another one requires stands before it, and triggers nothing. -/
theorem place_lt_of_requires {p : Prerequisite} {s' : Schema} (hs : s ∈ standardSchemas)
    (hp : p ∈ s.requires) (hget : standard.get? p.module = some s') :
    s' ∈ standardSchemas ∧ place s'.id < place s.id ∧ s'.triggers = [] := by
  have hall : ∀ s ∈ standardSchemas, ∀ p ∈ s.requires, place p.module < place s.id ∧
      ∀ s' ∈ standardSchemas, s'.id = p.module → s'.triggers = [] := by
    decide +kernel
  obtain ⟨hmem, hid⟩ := mem_of_get?_ofList hget
  obtain ⟨hplace, htriggers⟩ := hall s hs p hp
  rw [← hid] at hplace
  exact ⟨hmem, hplace, htriggers s' hmem hid⟩

end Registry

/-- A schema is that of the module which installs packages through a package manager. -/
structure Schema.Installs (s : Schema) (pm : PackageManager) : Prop where
  /-- The module has the package manager's id. -/
  id : s.id = pm.packageModule
  /-- It is bound to the package manager. -/
  bound : s.packageManager = some pm
  /-- Its documents are packages. -/
  resourceType : s.resourceType = .pkg
  /-- The packages go under one key. -/
  key : s.backendKey? "name" = some "pkgs"
  /-- What is not said otherwise is to be installed. -/
  state : s.defaultState = "installed"
  /-- It requires nothing. -/
  requires : s.requires = []
  /-- It triggers nothing. -/
  triggers : s.triggers = []

/-- Each package manager has a standard module that installs packages with it. -/
theorem exists_installs (pm : PackageManager) :
    ∃ s, Registry.standard.get? pm.packageModule = some s ∧ s.Installs pm := by
  have hmem : ∃ s ∈ standardSchemas, s.id = pm.packageModule ∧ s.packageManager = some pm ∧
      s.resourceType = .pkg ∧ s.backendKey? "name" = some "pkgs" ∧ s.defaultState = "installed" ∧
      s.requires = [] ∧ s.triggers = [] := by
    cases pm <;> decide +kernel
  obtain ⟨s, hs, hid, hbound, htype, hkey, hstate, hrequires, htriggers⟩ := hmem
  refine ⟨s, ?_, ⟨hid, hbound, htype, hkey, hstate, hrequires, htriggers⟩⟩
  rw [← hid]
  exact Registry.get?_standard_of_mem hs

end Provision
