import Provision.Registry.Basic

/-!
# Checking a registry

A registry is sound when every schema passes its own check, every module that a schema names is
registered, and no module requires itself, be it through others. The last is a depth-first search
along the requirements: `path` holds the modules from the start to the current one, `done` those
from which no circle was found. The search never steps onto its own path, so the modules off the
path become fewer with every step down, which is why it ends on every registry, sound or not.
-/

namespace Provision.Registry

/-- The registered modules that are not on a path. -/
def offPath (r : Registry) (path : List String) : List String := r.ids.filter fun m => m ∉ path

/-- To step onto a registered module leaves fewer modules off the path. -/
theorem length_offPath_lt {r : Registry} {path : List String} {m : String} {s : Schema}
    (hm : r.get? m = some s) (hp : m ∉ path) :
    (r.offPath (path ++ [m])).length < (r.offPath path).length := by
  have hid : m ∈ r.ids := List.mem_map.2 ⟨(m, s), Table.get?_eq_some_iff.1 hm, rfl⟩
  have hsub : (r.offPath (path ++ [m])) = (r.offPath path).filter fun x => x ≠ m := by
    simp only [offPath, List.filter_filter]
    congr 1
    funext x
    by_cases h : x = m <;> simp [h]
  have hmem : m ∈ r.offPath path := by simp [offPath, hid, hp]
  rw [hsub]
  exact List.length_filter_lt_length_iff_exists.2 ⟨m, hmem, by simp⟩

mutual

/-- Searches for a circle from a module on, and returns the modules known to lead to none. -/
def visit (r : Registry) (path done : List String) (m : String) :
    Except RegistryError (List String) :=
  if m ∈ done then .ok done
  else if hp : m ∈ path then .error (.cycle (path.dropWhile (· ≠ m) ++ [m]))
  else
    match h : r.get? m with
    | none => .ok (m :: done)
    | some s =>
      have := length_offPath_lt h hp
      (r.visitAll (path ++ [m]) done (s.requires.map (·.module))).map (m :: ·)
termination_by ((r.offPath path).length, 0)

/-- Searches from each of some modules in turn. -/
def visitAll (r : Registry) (path done : List String) :
    List String → Except RegistryError (List String)
  | [] => .ok done
  | m :: rest =>
    match r.visit path done m with
    | .ok done => r.visitAll path done rest
    | .error e => .error e
termination_by l => ((r.offPath path).length, l.length + 1)

end

/-- The first module that a schema names and the registry lacks. -/
def unknownReference? (r : Registry) (s : Schema) : Option String :=
  s.references.find? fun m => !r.contains m

/-- Checks one schema and the modules it names. -/
def checkSchema (r : Registry) (s : Schema) : Except RegistryError Unit := do
  s.check
  match r.unknownReference? s with
  | some m => .error (.unknownReference s.id m)
  | none => .ok ()

/-- Checks all that makes a registry sound. -/
def check (r : Registry) : Except RegistryError Unit := do
  r.all.forM r.checkSchema
  discard (r.visitAll [] [] r.ids)

end Provision.Registry
