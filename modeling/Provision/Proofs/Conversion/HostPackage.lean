import Provision.Conversion.Basic
import Provision.Proofs.Conversion.Compiled
import Provision.Proofs.Handler.Packages
import Provision.Proofs.Registry.Standard

/-!
# The package that a module requires of the host

The standard modules that install through a tool require the tool's package from both package
managers (`systemPackage`). One of the two package modules can run on a host, and it compiles to one
document, so that is all that such a module requires (`requirements_systemPackage`), whatever the
platform.
-/

namespace Provision

/-- A parameter that the module knows becomes an attribute. -/
theorem Schema.rename_singleton {s : Schema} {raw key : String} {v : Value}
    (hkey : s.backendKey? raw = some key) (hv : v.isNull = false) :
    s.rename (.singleton raw v) = .ok (.singleton key v.listed) := by
  have hentry : s.renameEntry (raw, v) = some (key, v.listed) := by
    unfold renameEntry
    rw [hv, hkey]
    rfl
  have hattributes : s.attributesOf (.singleton raw v) = .singleton key v.listed := by
    show Table.ofList ([(raw, v)].filterMap s.renameEntry) = _
    rw [List.filterMap_cons, hentry]
    rfl
  unfold rename
  rw [hattributes]
  rfl

/-- The tag of a package that is required of the host. -/
def hostTag (pm : PackageManager) : String := stepTag pm.packageModule requireStep "installed"

/-- The attributes of a package that is required of the host. -/
def hostAttributes (package : String) : Attributes := .singleton "pkgs" (.strings [package])

/-- The document of a package that is required of the host. -/
def hostDocument (package : String) : Document :=
  { resourceType := .pkg, state := "installed", attributes := hostAttributes package }

namespace Converter

variable {pm : PackageManager} {s : Schema} {levels : Nat} {package : String}

theorem handlers_hostPackage (pm : PackageManager) :
    HandlerTable.standard.get? pm.packageModule = some Handler.systemPackages := by
  cases pm <;> rfl

/-- The package module of a package manager can run where the host has this one. -/
theorem runnable?_installs {pm' : PackageManager}
    (h : Registry.standard.get? pm'.packageModule = some s)
    (hs : s.Installs pm') {parameters : Parameters} :
    standard.runnable? pm ⟨pm'.packageModule, parameters⟩ = if pm' = pm then some s else none := by
  have hruns : s.runsWith pm = decide (pm' = pm) := by
    unfold Schema.runsWith
    rw [hs.bound]
    rfl
  unfold runnable?
  show Option.filter _ (Registry.standard.get? pm'.packageModule) = _
  rw [h, Option.filter_some, hruns]
  by_cases heq : pm' = pm
  · rw [if_pos heq, if_pos (decide_eq_true heq)]
  · rw [if_neg heq, if_neg (by simpa using heq)]

/-- Of the packages required from every package manager, the host's own can be installed. -/
theorem applicable_systemPackage (h : Registry.standard.get? pm.packageModule = some s)
    (hs : s.Installs pm) {user : Schema} (huser : user.requires = systemPackage package) :
    standard.applicable pm user =
      [(⟨pm.packageModule, .singleton "name" (.strings [package])⟩, s)] := by
  -- both modules are registered, and the host runs one of them
  have hother : ∀ pm' ≠ pm, ∀ parameters,
      standard.runnable? pm ⟨pm'.packageModule, parameters⟩ = none := by
    intro pm' hne parameters
    obtain ⟨s', hs', hinstalls⟩ := exists_installs pm'
    rw [runnable?_installs hs' hinstalls, if_neg hne]
  have hown : ∀ parameters,
      standard.runnable? pm ⟨pm.packageModule, parameters⟩ = some s := fun _ => by
    rw [runnable?_installs h hs, if_pos rfl]
  unfold applicable systemPackage at *
  rw [huser]
  cases pm with
  | apt => simp [hown, hother .yum (by decide)]
  | yum => simp [hown, hother .apt (by decide)]

/-- A requirement of one package is compiled to one document, of the package to be there. -/
theorem compiled_hostPackage (hs : s.Installs pm) :
    standard.Compiled pm (levels + 1) requireStep s (.singleton "name" (.strings [package]))
      (.singleton (hostTag pm) (hostDocument package)) := by
  have hrename : s.rename (.singleton "name" (.strings [package])) = .ok (hostAttributes package) :=
    Schema.rename_singleton hs.key rfl
  have hbuild : standard.handlers.build s (hostAttributes package)
      = .ok (.singleton "installed" (hostAttributes package)) := by
    have hhandler : HandlerTable.standard.get? s.id = some Handler.systemPackages := by
      rw [hs.id]
      exact handlers_hostPackage pm
    rw [← hs.state]
    exact Handler.build_eq_ok hhandler rfl rfl
  have hown : ownDocument s ∅ ∅ "installed" (hostAttributes package) = hostDocument package := by
    unfold ownDocument
    rw [hs.resourceType, hs.triggers]
    rfl
  have hassemble : assemble s requireStep ∅ ∅ (.singleton "installed" (hostAttributes package))
      = .singleton (hostTag pm) (hostDocument package) := by
    unfold hostTag
    rw [← hown, ← hs.id]
    rfl
  rw [← hassemble]
  exact .of_leaf hs.requires hs.triggers hrename hbuild

/-- What a module requires of the host: one package. -/
theorem requirements_systemPackage {user : Schema} (huser : user.requires = systemPackage package)
    (p : Platform) : (standard.requirements user).run (Context.start p) =
      (.ok (.singleton (hostTag p.packageManager) (hostDocument package)), Context.start p) := by
  obtain ⟨s, hget, hs⟩ := exists_installs p.packageManager
  have happlicable := applicable_systemPackage hget hs huser
  refine requirements_run_eq_ok_iff.2
    ⟨rfl, fun _ => .singleton (hostTag p.packageManager) (hostDocument package), ?_, ?_⟩
  · intro q hq
    rw [Context.start_packageManager, happlicable, List.mem_singleton] at hq
    rw [hq]
    exact compiled_hostPackage hs
  · unfold required
    rw [Context.start_packageManager, happlicable]
    rfl

end Converter

end Provision
