import Provision.Proofs.Conversion.Faults
import Provision.Proofs.Conversion.Request
import Provision.Proofs.Expansion.Faults
import Provision.Proofs.Registry.Check

/-!
# How deep prerequisites may be nested

A conversion is checked, compiled and expanded, and only compiling has a fault of its own: the check
refuses a request (`kind_cases_of_check`), expanding refuses a document
(`DocumentMap.expand_eq_error`), and `CompileFault` says what is left. So an internal error tells of
a chain of more than `maxDepth` requirements, each of a module that is registered and can run on the
platform, and where there is such a chain nothing is converted. In a context that stands deeper
already the chain is shorter by as much. Stages are entered in their order throughout, so a
transition is never refused.
-/

namespace Provision.Converter

variable {c : Converter} {step module platform : String} {params : Parameters}

/-- What is converted has no chain of requirements that is too long. -/
theorem not_nestsOver_of_convert {maps : List DocumentMap}
    (h : c.convert step module params platform = .ok maps) {s : Schema} {p : Platform}
    (hs : c.registry.get? module = some s) (hp : Named.ofName? platform = some p) :
    ¬ c.registry.NestsOver p.packageManager maxDepth s := by
  obtain ⟨m, hm, -⟩ := convert_eq_ok_iff.1 h
  obtain ⟨s', p', hcheck, hcompiled⟩ := documents_eq_ok_iff.1 hm
  obtain ⟨-, -, hp', hs', -⟩ := check_eq_ok_iff.1 hcheck
  cases hs.symm.trans hs'
  cases hp.symm.trans hp'
  exact hcompiled.not_nestsOver

/-- With the standard handlers an internal error always is that of prerequisites nested too deeply,
and it shows a chain of applicable requirements that is longer than what is left of sixteen levels.
Where there is such a chain there is no success. This holds of whole conversions and of resolving
requirements at any depth. -/
theorem internal_error_exact (hhandlers : c.handlers = .standard) :
    (∀ step module params platform stage cause,
      c.convert step module params platform = .error (.internal stage cause) →
        cause = .tooDeep 16 ∧
        ∃ (s : Schema) (p : Platform), c.registry.get? module = some s ∧
          Named.ofName? platform = some p ∧
          c.registry.NestsOver p.packageManager 16 s) ∧
    (∀ step module params platform (s : Schema) (p : Platform),
      c.registry.get? module = some s → Named.ofName? platform = some p →
        c.registry.NestsOver p.packageManager 16 s →
          ∀ maps, c.convert step module params platform ≠ .ok maps) ∧
    (∀ s ctx stage cause, ((c.requirements s).run ctx).1 = .error (.internal stage cause) →
      cause = .tooDeep 16 ∧
        c.registry.NestsOver ctx.packageManager (16 - ctx.depth) s) ∧
    ∀ s ctx, c.registry.NestsOver ctx.packageManager (16 - ctx.depth) s →
      ∀ m, ((c.requirements s).run ctx).1 ≠ .ok m := by
  refine ⟨?convert, ?noConvert, ?requirements, ?noRequirements⟩
  case convert =>
    intro step module params platform stage cause h
    rcases convert_eq_error h with hcheck | ⟨s, p, hcheck, hcompile | ⟨m, -, hexpand⟩⟩
    · rcases kind_cases_of_check ⟨_, hcheck, rfl⟩ with hkind | hkind | hkind <;> cases hkind
    · obtain ⟨-, -, hp, hs, -⟩ := check_eq_ok_iff.1 hcheck
      cases compile_fault hhandlers (fun _ => rfl) hcompile with
      | tooDeep _ hnests => exact ⟨rfl, s, p, hs, hp, hnests⟩
    · rcases DocumentMap.expand_eq_error hexpand with ⟨-, he⟩ | ⟨-, _, -, -, he⟩ <;> cases he
  case noConvert =>
    intro step module params platform s p hs hp hnests maps h
    exact not_nestsOver_of_convert h hs hp hnests
  case requirements =>
    intro s ctx stage cause h
    cases requirements_fault hhandlers h with
    | tooDeep _ hnests => exact ⟨rfl, hnests⟩
  case noRequirements =>
    intro s ctx hnests m h
    exact not_nestsOver_of_requirements h hnests

/-- A file of a tower: it requires the file of the storey below, and the one at the bottom
nothing. -/
def storey (n : Nat) : Schema where
  id := String.ofList (List.replicate (n + 1) 'a')
  resourceType := .file
  attributes := .singleton "name" "name"
  states := ["there"]
  requires := match n with
    | 0 => []
    | n + 1 => [⟨String.ofList (List.replicate (n + 1) 'a'), .singleton "name" (.str "below")⟩]

/-- A converter that knows a tower of one storey more than may be nested. -/
def tower : Converter where
  registry := .ofList ((List.range 18).map storey)
  handlers := .standard

/-- From the top of the tower there is one requirement too many. One level before the limit the
second storey can be resolved, and the third one is too high. -/
theorem tower_internal :
    ofRegistry tower.registry = .ok tower ∧ tower.handlers = .standard ∧
    tower.registry.NestsOver .apt 16 (storey 17) ∧
    tower.registry.NestsOver .apt 1 (storey 2) ∧ ¬ tower.registry.NestsOver .apt 1 (storey 1) := by
  have hregistry : ofRegistry tower.registry = .ok tower :=
    Registry.ofRegistry_eq_ok_of_rank String.length (by decide +kernel) (by decide +kernel)
  let deep : Context := { platform := .ubuntu, depth := 15 }
  have htop : tower.convert "1" "aaaaaaaaaaaaaaaaaa" (.singleton "name" (.str "top")) "ubuntu"
      = .error (.internal .resolvingDeps (.tooDeep 16)) := by
    decide +kernel
  have hthird : ((tower.requirements (storey 2)).run deep).1
      = .error (.internal .validating (.tooDeep 16)) := by
    decide +kernel
  obtain ⟨m, hsecond⟩ := exists_eq_ok_of_isOk
    (show ((tower.requirements (storey 1)).run deep).1.isOk = true by decide +kernel)
  obtain ⟨hconvert, -, hrequirements, hnone⟩ := internal_error_exact (c := tower) rfl
  obtain ⟨-, s, p, hs, hp, hnests⟩ := hconvert _ _ _ _ _ _ htop
  have hget : tower.registry.get? "aaaaaaaaaaaaaaaaaa" = some (storey 17) := by decide +kernel
  have hplatform : Named.ofName? "ubuntu" = some Platform.ubuntu := rfl
  cases hget.symm.trans hs
  cases hplatform.symm.trans hp
  exact ⟨hregistry, rfl, hnests, (hrequirements _ _ _ _ hthird).2, fun h =>
    hnone _ deep h m hsecond⟩

end Provision.Converter
