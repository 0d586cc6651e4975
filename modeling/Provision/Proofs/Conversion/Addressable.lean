import Provision.Proofs.Conversion.Phases
import Provision.Proofs.Registry.File

/-!
# Which registered modules can be asked for

A registry is checked when it is made and a request when it comes, and the two checks do not ask the
same of a module's name. A registry takes any text for an id (`ofText_oneSchema`), while a request
has to name a module by segments of letters, digits and underscores with dots between them
(`ModuleName`). So a sound registry can have modules that are listed and that others can require,
and that no request gets to. `refused_iff_unnamed` says that these are the modules whose ids are no
module names, and that the request is refused as malformed for no other reason: a registered module
is never unknown. The file ends with a registry of one such module.
-/

namespace Provision

namespace Converter

/-- With a step and a platform that are in order, a request is malformed for the name of its module
only. -/
theorem malformed_iff {step module platform : String}
    (hstep : ∃ ch ∈ step.toList, Text.isBlank ch = false)
    (hplatform : ∃ p : Platform, Named.name p = platform) :
    Malformed step module platform ↔ ¬ ModuleName module := by
  have hblank : ¬ ∀ ch ∈ step.toList, Text.isBlank ch = true := by
    intro h
    obtain ⟨ch, hch, hfalse⟩ := hstep
    rw [h ch hch] at hfalse
    cases hfalse
  have hunknown : ¬ ∀ p : Platform, Named.name p ≠ platform := fun h => hplatform.elim h
  unfold Malformed
  rw [or_iff_right hblank, or_iff_left hunknown]

/-- A registry that is accepted, as it is or from a file, makes a converter, and whatever is asked
of a module in it, in a step that is not blank and on a platform that is known, is not refused for
an unknown module, and is refused as malformed exactly if the module's id is no module name. -/
theorem refused_iff_unnamed {r : Registry}
    (h : r.check = .ok () ∨ ∃ text, Registry.ofText text = .ok r) :
    ∃ c, ofRegistry r = .ok c ∧ c.registry = r ∧
      ∀ module ∈ r.ids, ∀ (step platform : String) (params : List (String × Value)),
        (∃ ch ∈ step.toList, Text.isBlank ch = false) → (∃ p : Platform, Named.name p = platform) →
          (FailsWith .invalidInput (c.convertValue step module (.map params) platform) ↔
            ¬ ModuleName module) ∧
          ¬ FailsWith .unsupportedModule (c.convertValue step module (.map params) platform) := by
  have hsound : r.Sound := by
    rcases h with hcheck | ⟨text, htext⟩
    · exact Registry.check_eq_ok_iff.1 hcheck
    · exact Registry.sound_of_ofText htext
  refine ⟨_, Registry.ofRegistry_eq_ok_iff.2 ⟨hsound, rfl⟩, rfl, ?_⟩
  intro module hmodule step platform params hstep hplatform
  obtain ⟨s, hs⟩ := Registry.mem_ids.1 hmodule
  -- only the check of a request fails in these two ways
  have hconvert :
      convertValue { registry := r, handlers := .standard } step module (.map params) platform =
        convert { registry := r, handlers := .standard } step module (.ofList params) platform :=
    rfl
  rw [hconvert, failsWith_convert_iff_check rfl (.inl rfl),
    failsWith_convert_iff_check rfl (.inr (.inl rfl)), check_invalidInput_iff,
    check_unsupportedModule_iff, malformed_iff hstep hplatform]
  refine ⟨Iff.rfl, fun hunknown => ?_⟩
  rw [hs] at hunknown
  cases hunknown.2

/-- A module with a hyphen in its id is part of a sound registry, is read from a file, and cannot be
asked for. -/
theorem hyphenated_refused :
    Registry.ofText (Registry.oneSchema "my-module").toText = .ok (.oneSchema "my-module") ∧
    ∃ c, ofRegistry (.oneSchema "my-module") = .ok c ∧ "my-module" ∈ c.registry.ids ∧
      FailsWith .invalidInput (c.convertValue "1" "my-module"
        (.map [("name", .str "a")]) "ubuntu") := by
  have htext := Registry.ofText_oneSchema "my-module"
  have hmodule : "my-module" ∈ (Registry.oneSchema "my-module").ids := by decide +kernel
  have hunnamed : ¬ ModuleName "my-module" := by
    rw [← isModuleName_iff]
    decide +kernel
  obtain ⟨c, hc, hregistry, hrefused⟩ := refused_iff_unnamed (.inr ⟨_, htext⟩)
  obtain ⟨hinvalid, -⟩ :=
    hrefused "my-module" hmodule "1" "ubuntu" [("name", .str "a")] ⟨'1', by decide, by decide⟩
    ⟨.ubuntu, rfl⟩
  refine ⟨htext, c, hc, ?_, hinvalid.2 hunnamed⟩
  rw [hregistry]
  exact hmodule

end Converter

end Provision
