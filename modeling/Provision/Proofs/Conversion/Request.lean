import Provision.Proofs.Conversion.Compiled

/-!
# What a request is refused for

A request is checked for its own sake first, then against the registry, and `check_cases` says at
once what can come out: it is malformed, its module is unknown, its module is for another package
manager, or there are a schema and a platform. Malformed is said without the reader of module names,
by the segments of a name (`isModuleName_iff`). Whatever fails later fails in compiling or in
expanding (`convert_eq_error`).
-/

namespace Provision

/-! ## Failing in one way -/

/-- A result that is an error of a kind. -/
def FailsWith {α : Type} (kind : ErrorKind) (r : Except ConvertError α) : Prop :=
  ∃ e, r = .error e ∧ e.kind = kind

section

variable {α β : Type} {kind : ErrorKind}

@[simp] theorem failsWith_error {e : ConvertError} :
    FailsWith kind (.error e : Except ConvertError α) ↔ e.kind = kind := by
  simp [FailsWith]

@[simp] theorem not_failsWith_ok {a : α} : ¬ FailsWith kind (.ok a : Except ConvertError α) := by
  simp [FailsWith]

/-- Steps in a row fail with what the first of them fails with. -/
theorem failsWith_bind_iff {r : Except ConvertError α} {f : α → Except ConvertError β} :
    FailsWith kind (r >>= f) ↔ FailsWith kind r ∨ ∃ a, r = .ok a ∧ FailsWith kind (f a) := by
  cases r with
  | error e => simp [error_bind]
  | ok a => simp [ok_bind]

end

/-! ## Requests -/

/-- One or more segments of ASCII letters, digits and underscores, with a dot between two of
them. -/
def ModuleName (module : String) : Prop :=
  ∃ segments : List (List Char), segments ≠ [] ∧
    (∀ segment ∈ segments, segment ≠ [] ∧ ∀ ch ∈ segment, ch.isAlphanum = true ∨ ch = '_') ∧
    module.toList = ['.'].intercalate segments

/-- The check of a module name accepts one or more segments with dots between them, and no
others. -/
theorem isModuleName_iff {module : String} : isModuleName module = true ↔ ModuleName module := by
  have hsegments : isModuleName module = true ↔ ∀ segment ∈ module.toList.splitOn '.',
      segment ≠ [] ∧ ∀ ch ∈ segment, ch.isAlphanum = true ∨ ch = '_' := by
    unfold isModuleName
    simp [List.splitOn_eq_splitOnP]
  rw [hsegments]
  constructor
  · intro h
    exact ⟨_, List.splitOn_ne_nil _ _, h, (List.intercalate_splitOn '.').symm⟩
  · intro h
    obtain ⟨segments, hne, hletters, hmodule⟩ := h
    have hdot : ∀ segment ∈ segments, '.' ∉ segment := by
      intro segment hsegment hmem
      rcases (hletters segment hsegment).2 '.' hmem with hletter | hunderscore
      · exact absurd hletter (by decide)
      · exact absurd hunderscore (by decide)
    rw [hmodule, List.splitOn_intercalate '.' hdot hne]
    exact hletters

/-- No converter takes the request: the step is blank, the module is no name, or nobody knows the
platform. -/
def Malformed (step module platform : String) : Prop :=
  (∀ ch ∈ step.toList, Text.isBlank ch = true) ∨ ¬ ModuleName module ∨
    ∀ p : Platform, Named.name p ≠ platform

theorem not_malformed_iff {step module platform : String} : ¬ Malformed step module platform ↔
    Text.isBlankText step.toList = false ∧ isModuleName module = true ∧
      ∃ p : Platform, Named.ofName? platform = some p := by
  have hblank : (∀ ch ∈ step.toList, Text.isBlank ch = true) ↔
      Text.isBlankText step.toList = true :=
    List.all_eq_true.symm
  unfold Malformed
  rw [hblank, ← isModuleName_iff]
  simp only [Named.ofName?_eq_some_iff, not_or, Bool.not_eq_true, Bool.not_eq_false, not_forall,
    not_not, ne_eq]

namespace Converter

variable {c : Converter} {step module platform : String} {s : Schema} {params : Parameters}
  {e : ConvertError}

/-- A module is refused by a package manager if it asks for another one. -/
theorem runsWith_eq_false_iff {pm : PackageManager} :
    s.runsWith pm = false ↔ ∃ own, s.packageManager = some own ∧ own ≠ pm := by
  unfold Schema.runsWith
  cases s.packageManager <;> simp

/-- All that a check can come to. -/
theorem check_cases (c : Converter) (step module platform : String) :
    (Malformed step module platform ∧
      ∃ cause, c.check step module platform = .error (.invalidInput cause)) ∨
    (¬ Malformed step module platform ∧
      ((c.registry.get? module = none ∧
        c.check step module platform = .error (.unsupportedModule module)) ∨
      ∃ (s : Schema) (p : Platform), c.registry.get? module = some s ∧
        Named.ofName? platform = some p ∧
        ((s.runsWith p.packageManager = false ∧
          c.check step module platform = .error (.platformConflict (Named.name p) module)) ∨
        (s.runsWith p.packageManager = true ∧ c.check step module platform = .ok (s, p))))) := by
  by_cases hform : Malformed step module platform
  · refine .inl ⟨hform, ?_⟩
    have hnot := fun hwell => not_malformed_iff.2 hwell hform
    unfold check
    by_cases hstep : Text.isBlankText step.toList = true
    · rw [if_pos hstep]
      exact ⟨_, rfl⟩
    by_cases hmodule : isModuleName module = true
    · have hplatform : (Named.ofName? platform : Option Platform) = none := by
        rw [Option.eq_none_iff_forall_ne_some]
        intro p hp
        exact hnot ⟨Bool.eq_false_iff.2 hstep, hmodule, p, hp⟩
      rw [if_neg hstep, hmodule, hplatform]
      exact ⟨_, rfl⟩
    · rw [if_neg hstep, Bool.eq_false_iff.2 hmodule]
      exact ⟨_, rfl⟩
  · refine .inr ⟨hform, ?_⟩
    obtain ⟨hstep, hmodule, p, hp⟩ := not_malformed_iff.1 hform
    unfold check
    rw [hstep, hmodule, hp]
    cases hs : c.registry.get? module with
    | none => exact .inl ⟨rfl, rfl⟩
    | some s =>
      refine .inr ⟨s, p, rfl, rfl, ?_⟩
      cases hruns : s.runsWith p.packageManager with
      | false => exact .inl ⟨rfl, by simp [hruns]⟩
      | true => exact .inr ⟨rfl, by simp [hruns]⟩

theorem kind_cases_of_check {kind : ErrorKind} (h : FailsWith kind (c.check step module platform)) :
    kind = .invalidInput ∨ kind = .unsupportedModule ∨ kind = .platformConflict := by
  obtain ⟨e, he, rfl⟩ := h
  rcases check_cases c step module platform with
    ⟨-, cause, hcheck⟩ | ⟨-, ⟨-, hcheck⟩ | ⟨s, p, -, -, ⟨-, hcheck⟩ | ⟨-, hcheck⟩⟩⟩
  · cases he.symm.trans hcheck
    exact .inl rfl
  · cases he.symm.trans hcheck
    exact .inr (.inl rfl)
  · cases he.symm.trans hcheck
    exact .inr (.inr rfl)
  · cases he.symm.trans hcheck

/-- Of the kinds of a check this is the first one: whether the module is there does not matter. -/
theorem check_invalidInput_iff :
    FailsWith .invalidInput (c.check step module platform) ↔ Malformed step module platform := by
  rcases check_cases c step module platform with
    ⟨hform, cause, h⟩ | ⟨hform, ⟨-, h⟩ | ⟨s, p, -, -, ⟨-, h⟩ | ⟨-, h⟩⟩⟩
  · simp [h, hform, ConvertError.kind]
  · simp [h, hform, ConvertError.kind]
  · simp [h, hform, ConvertError.kind]
  · simp [h, hform]

theorem check_unsupportedModule_iff : FailsWith .unsupportedModule (c.check step module platform) ↔
    ¬ Malformed step module platform ∧ c.registry.get? module = none := by
  rcases check_cases c step module platform with
    ⟨hform, cause, h⟩ | ⟨hform, ⟨hs, h⟩ | ⟨s, p, hs, -, ⟨-, h⟩ | ⟨-, h⟩⟩⟩
  · simp [h, hform, ConvertError.kind]
  · simp [h, hform, hs, ConvertError.kind]
  · simp [h, hs, ConvertError.kind]
  · simp [h, hs]

/-- A well-formed request for a module of another package manager is refused as that. -/
theorem check_platformConflict_iff : FailsWith .platformConflict (c.check step module platform) ↔
    ¬ Malformed step module platform ∧ ∃ (s : Schema) (p : Platform) (own : PackageManager),
      c.registry.get? module = some s ∧ Named.name p = platform ∧ s.packageManager = some own ∧
        own ≠ p.packageManager := by
  have hconflict : (∃ (s : Schema) (p : Platform) (own : PackageManager),
      c.registry.get? module = some s ∧
      Named.name p = platform ∧ s.packageManager = some own ∧ own ≠ p.packageManager) ↔
      ∃ (s : Schema) (p : Platform), c.registry.get? module = some s ∧
        Named.ofName? platform = some p ∧
        s.runsWith p.packageManager = false := by
    simp only [runsWith_eq_false_iff, Named.ofName?_eq_some_iff, exists_and_left]
  rw [hconflict]
  rcases check_cases c step module platform with
    ⟨hform, cause, h⟩ | ⟨hform, ⟨hs, h⟩ | ⟨s, p, hs, hp, ⟨hruns, h⟩ | ⟨hruns, h⟩⟩⟩
  · simp [h, hform, ConvertError.kind]
  · simp [h, hs, ConvertError.kind]
  · simp [h, hform, hs, hp, hruns, ConvertError.kind]
  · simp [h, hs, hp, hruns]

/-- A conversion fails in its check, in compiling or in expanding. -/
theorem convert_eq_error (h : c.convert step module params platform = .error e) :
    c.check step module platform = .error e ∨
      ∃ s p, c.check step module platform = .ok (s, p) ∧
        (((c.compile step s params).run (Context.start p)).1 = .error e ∨
          ∃ m, ((c.compile step s params).run (Context.start p)).1 = .ok m ∧
            m.expand = .error e) := by
  unfold convert at h
  cases hcheck : c.check step module platform with
  | error e' =>
    rw [hcheck] at h
    cases h
    exact .inl rfl
  | ok found =>
    obtain ⟨s, p⟩ := found
    rw [hcheck, ok_bind] at h
    dsimp only at h
    rw [run_start] at h
    refine .inr ⟨s, p, rfl, ?_⟩
    cases hm : ((c.compile step s params).run (Context.start p)).1 with
    | error e' =>
      rw [hm] at h
      cases h
      exact .inl rfl
    | ok m =>
      rw [hm] at h
      exact .inr ⟨m, rfl, h⟩

end Converter

end Provision
