import Provision.Proofs.Conversion.Depth
import Provision.Proofs.Conversion.Own

/-!
# What the kind of an error tells

A conversion with the standard handlers is checked, compiled and expanded, and each of the three
fails with kinds of its own: a compilation at any depth with `CompileFault.kind_cases`, an expansion
with `failsWith_expand_iff`, and a check with what is left. `failsWith_convert_iff` puts them
together, so that the kind of an error tells how far a conversion has come, and what was wrong
there.

An expansion fails only for a pin with a blank part. It never is for lack of documents, as a step
has at least one state (`isEmpty_of_compile`). The pin may be in any document that was compiled: an
own one, one of a prerequisite, or one of a trigger. The file ends with a step that cannot be
expanded for the document of its trigger.
-/

namespace Provision

/-- A document of the map lists a pin with a blank part. -/
def DocumentMap.ListsBlankPin (m : DocumentMap) : Prop := ∃ t d, m.get? t = some d ∧ d.ListsBlankPin

/-- An expansion of some documents fails for a blank pin only. -/
theorem DocumentMap.failsWith_expand_iff {m : DocumentMap}
    (hne : m.isEmpty = false) {kind : ErrorKind} :
    FailsWith kind m.expand ↔ kind = .expandFailure ∧ m.ListsBlankPin := by
  have hblank := exists_expand_eq_error_iff hne
  constructor
  · intro h
    obtain ⟨e, he, hkind⟩ := h
    refine ⟨?_, hblank.1 ⟨e, he⟩⟩
    rcases expand_eq_error he with ⟨-, rfl⟩ | ⟨-, p, -, -, rfl⟩ <;> exact hkind.symm
  · intro h
    obtain ⟨rfl, hlists⟩ := h
    obtain ⟨e, he⟩ := hblank.2 hlists
    refine ⟨e, he, ?_⟩
    rcases expand_eq_error he with ⟨-, rfl⟩ | ⟨-, p, -, -, rfl⟩ <;> rfl

theorem CompileFault.kind_cases {r : Registry} {pm : PackageManager} {levels : Nat} {s : Schema}
    {e : ConvertError} (h : CompileFault r pm levels s e) :
    e.kind = .emptyMapping ∨ e.kind = .buildFailure ∨ e.kind = .internal := by
  cases h with
  | unknown module => exact .inl rfl
  | unsorted module cause => exact .inr (.inl rfl)
  | tooDeep stage hnests => exact .inr (.inr rfl)

namespace Converter

variable {c : Converter} {step module platform : String} {s : Schema} {p : Platform}
  {params : Parameters} {m : DocumentMap} {ctx : Context} {kind : ErrorKind}

/-- A compilation fails with one of three kinds of error. -/
theorem kind_cases_of_compile (hhandlers : c.handlers = .standard)
    (hctx : ctx.depth = 0 → ctx.stage = .validating)
    (h : FailsWith kind ((c.compile step s params).run ctx).1) :
    kind = .emptyMapping ∨ kind = .buildFailure ∨ kind = .internal := by
  obtain ⟨e, he, rfl⟩ := h
  exact (compile_fault hhandlers hctx he).kind_cases

/-- The standard handlers sort attributes into one state at least, so an own document is
assembled. -/
theorem isEmpty_assemble {attributes : Attributes} {buckets : Buckets}
    {requires triggers : DocumentMap}
    (hbuild : HandlerTable.standard.build s attributes = .ok buckets) :
    (assemble s step requires triggers buckets).isEmpty = false := by
  have hgives := HandlerTable.build_standard s attributes
  rw [hbuild] at hgives
  obtain ⟨⟨state, own⟩, hmem⟩ := List.exists_mem_of_ne_nil _ (List.isEmpty_eq_false_iff.1 hgives.1)
  exact Table.isEmpty_of_get? (get?_assemble_stepTag (Table.get?_eq_some_iff.2 hmem))

/-- What is compiled with the standard handlers has an own document. -/
theorem isEmpty_of_compile (hhandlers : c.handlers = .standard)
    (h : ((c.compile step s params).run (Context.start p)).1 = .ok m) : m.isEmpty = false := by
  obtain ⟨attributes, buckets, requires, -, hbuild, -, rfl⟩ := compile_start_eq_ok_iff_assemble.1 h
  rw [hhandlers] at hbuild
  exact isEmpty_assemble hbuild

/-- A conversion fails in its check, or else in compiling, or else in expanding. -/
theorem failsWith_convert_iff (hhandlers : c.handlers = .standard) :
    FailsWith kind (c.convert step module params platform) ↔
      FailsWith kind (c.check step module platform) ∨
      ∃ s p, c.check step module platform = .ok (s, p) ∧
        (FailsWith kind ((c.compile step s params).run (Context.start p)).1 ∨
        ∃ m, ((c.compile step s params).run (Context.start p)).1 = .ok m ∧ kind = .expandFailure ∧
          m.ListsBlankPin) := by
  have hrun : ∀ s p, FailsWith kind ((c.run step s params).run (Context.start p)).1 ↔
      FailsWith kind ((c.compile step s params).run (Context.start p)).1 ∨
      ∃ m, ((c.compile step s params).run (Context.start p)).1 = .ok m ∧ kind = .expandFailure ∧
        m.ListsBlankPin := by
    intro s p
    rw [run_start]
    refine failsWith_bind_iff.trans
      (or_congr_right (exists_congr fun m => and_congr_right fun hm => ?_))
    exact DocumentMap.failsWith_expand_iff (isEmpty_of_compile hhandlers hm)
  refine failsWith_bind_iff.trans (or_congr_right ?_)
  simp only [Prod.exists, hrun]

/-- The kinds that tell of the request come from its check. -/
theorem failsWith_convert_iff_check (hhandlers : c.handlers = .standard)
    (hkind : kind = .invalidInput ∨ kind = .unsupportedModule ∨ kind = .platformConflict) :
    FailsWith kind (c.convert step module params platform) ↔
      FailsWith kind (c.check step module platform) := by
  rw [failsWith_convert_iff hhandlers]
  refine or_iff_left fun h => ?_
  obtain ⟨s, p, -, hcompile | ⟨m, -, hexpand, -⟩⟩ := h
  · rcases kind_cases_of_compile hhandlers (fun _ => rfl) hcompile with rfl | rfl | rfl <;>
      simp at hkind
  · subst hexpand
    simp at hkind

/-- Errors of the expansion come from a blank pin in one of the documents. -/
theorem failsWith_expandFailure_iff (hhandlers : c.handlers = .standard) :
    FailsWith .expandFailure (c.convert step module params platform) ↔
      ∃ s p m, c.check step module platform = .ok (s, p) ∧
        ((c.compile step s params).run (Context.start p)).1 = .ok m ∧ m.ListsBlankPin := by
  rw [failsWith_convert_iff hhandlers]
  constructor
  · intro h
    rcases h with hcheck | ⟨s, p, hcheck, hcompile | ⟨m, hm, -, hblank⟩⟩
    · rcases kind_cases_of_check hcheck with hkind | hkind | hkind <;> cases hkind
    · rcases kind_cases_of_compile hhandlers (fun _ => rfl) hcompile with hkind | hkind | hkind <;>
        cases hkind
    · exact ⟨s, p, m, hcheck, hm, hblank⟩
  · intro h
    obtain ⟨s, p, m, hcheck, hm, hblank⟩ := h
    exact .inr ⟨s, p, hcheck, .inr ⟨m, hm, rfl, hblank⟩⟩

/-- There always are documents to expand. -/
theorem convert_ne_noDocuments (hhandlers : c.handlers = .standard) :
    c.convert step module params platform ≠ .error (.expandFailure .noDocuments) := by
  intro h
  obtain ⟨s, p, m, hcheck, hm, -⟩ := (failsWith_expandFailure_iff hhandlers).1 ⟨_, h, rfl⟩
  have hne := isEmpty_of_compile hhandlers hm
  have hexpand : m.expand = .error (.expandFailure .noDocuments) := by
    unfold convert at h
    rw [hcheck, ok_bind] at h
    dsimp only at h
    rw [run_start, hm] at h
    exact h
  rcases DocumentMap.expand_eq_error hexpand with ⟨hempty, -⟩ | ⟨-, _, -, -, he⟩
  · rw [hne] at hempty
    cases hempty
  · cases he

/-- The kind of an error tells the phase that a conversion has come to, in the order of the phases
and whatever the parameters hold. A request is refused if the parameters are no mapping or if it is
malformed, its module if nobody knows it, its platform if the module is bound to another package
manager. Documents cannot be expanded exactly if one of them lists a pin with a blank part. Below
the top level there are no such errors. -/
theorem error_kind_exact (hhandlers : c.handlers = .standard) (step module : String)
    (params : Value) (platform : String) :
    (FailsWith .invalidInput (c.convertValue step module params platform) ↔
      (∀ l, params ≠ .map l) ∨ Malformed step module platform) ∧
    (FailsWith .unsupportedModule (c.convertValue step module params platform) ↔
      (∃ l, params = .map l) ∧ ¬ Malformed step module platform ∧ c.registry.get? module = none) ∧
    (FailsWith .platformConflict (c.convertValue step module params platform) ↔
      (∃ l, params = .map l) ∧ ¬ Malformed step module platform ∧
        ∃ (s : Schema) (p : Platform) (own : PackageManager), c.registry.get? module = some s ∧
          Named.name p = platform ∧ s.packageManager = some own ∧ own ≠ p.packageManager) ∧
    (FailsWith .expandFailure (c.convertValue step module params platform) ↔
      ∃ l s p m, params = .map l ∧ c.check step module platform = .ok (s, p) ∧
        ((c.compile step s (.ofList l)).run (Context.start p)).1 = .ok m ∧
          ∃ t d, m.get? t = some d ∧ d.ListsBlankPin) ∧
    c.convertValue step module params platform ≠ .error (.expandFailure .noDocuments) ∧
    ∀ step s params ctx kind, 0 < ctx.depth → FailsWith kind ((c.compile step s params).run ctx).1 →
      kind = .emptyMapping ∨ kind = .buildFailure ∨ kind = .internal := by
  have hnested : ∀ step s params ctx kind, 0 < ctx.depth →
      FailsWith kind ((c.compile step s params).run ctx).1 →
        kind = .emptyMapping ∨ kind = .buildFailure ∨ kind = .internal :=
    fun _ _ _ _ _ hdepth => kind_cases_of_compile hhandlers fun htop =>
      absurd htop (Nat.ne_of_gt hdepth)
  by_cases hmap : ∃ l, params = .map l
  case pos =>
    obtain ⟨l, rfl⟩ := hmap
    have hconvert : c.convertValue step module (.map l) platform
        = c.convert step module (.ofList l) platform := rfl
    rw [hconvert, failsWith_convert_iff_check hhandlers (.inl rfl),
      failsWith_convert_iff_check hhandlers (.inr (.inl rfl)),
      failsWith_convert_iff_check hhandlers (.inr (.inr rfl)),
      failsWith_expandFailure_iff hhandlers, check_invalidInput_iff, check_unsupportedModule_iff,
      check_platformConflict_iff]
    refine ⟨?_, ?_, ?_, ?_, convert_ne_noDocuments hhandlers, hnested⟩
    · simp
    · simp
    · simp
    · simp [DocumentMap.ListsBlankPin]
  case neg =>
    have hrefused : c.convertValue step module params platform
        = .error (.invalidInput (.notAMapping module params)) := by
      unfold convertValue
      split
      · next l => exact absurd ⟨l, rfl⟩ hmap
      · rfl
    have hnone := not_exists.1 hmap
    rw [hrefused]
    refine ⟨?_, ?_, ?_, ?_, ?_, hnested⟩ <;> simp [ConvertError.kind, hnone]

/-- A file that hands a list of packages on to a library. -/
def listing : Converter where
  registry := .ofList [
    { id := "lib", resourceType := .pip, attributes := .singleton "names" "names",
      states := ["in"] },
    { id := "app", resourceType := .file, attributes := .singleton "name" "name",
      states := ["there"], triggers := [⟨"lib", [⟨"list", "names"⟩]⟩] }]
  handlers := .standard

/-- Parameters of the file with a pin that has no version. -/
def listingParameters : List (String × Value) := [("name", .str "a"), ("list", .list [.str "x== "])]

/-- The document of the trigger lists the pin, so that there is a document with a blank pin. -/
theorem listing_lists_blank_pin :
    ofRegistry listing.registry = .ok listing ∧ listing.handlers = .standard ∧
    ∃ s p m, listing.check "1" "app" "ubuntu" = .ok (s, p) ∧
      ((listing.compile "1" s (.ofList listingParameters)).run (Context.start p)).1 = .ok m ∧
        ∃ t d, m.get? t = some d ∧ d.ListsBlankPin := by
  have hregistry : ofRegistry listing.registry = .ok listing :=
    Registry.ofRegistry_eq_ok_of_rank (fun _ => 0) (by decide +kernel) (by decide +kernel)
  have hfails : listing.convertValue "1" "app" (.map listingParameters) "ubuntu"
      = .error (.expandFailure (.invalidPin "x== ")) := by
    decide +kernel
  obtain ⟨-, -, -, hexpand, -⟩ :=
    error_kind_exact (c := listing) rfl "1" "app" (.map listingParameters) "ubuntu"
  obtain ⟨l, s, p, m, hl, hcheck, hcompile, hblank⟩ := hexpand.1 ⟨_, hfails, rfl⟩
  cases hl
  exact ⟨hregistry, rfl, s, p, m, hcheck, hcompile, hblank⟩

/-- Neither an own document nor one of a prerequisite lists it: looking at those alone one does not
see why the conversion fails. -/
theorem listing_own_and_required_clear :
    ¬ (FailsWith .expandFailure (listing.convertValue "1" "app" (.map listingParameters) "ubuntu") ↔
      ∃ s p attributes buckets requires, listing.check "1" "app" "ubuntu" = .ok (s, p) ∧
        s.rename (.ofList listingParameters) = .ok attributes ∧
        listing.handlers.build s attributes = .ok buckets ∧
        (listing.requirements s).run (Context.start p) = (.ok requires, Context.start p) ∧
        ((∃ state own, buckets.get? state = some own ∧
          (ownDocument s requires (s.triggerDocuments listing.registry p.packageManager "1"
            (.ofList listingParameters)) state own).ListsBlankPin) ∨
        ∃ t d, requires.get? t = some d ∧ d.ListsBlankPin)) := by
  intro hiff
  have hfails : listing.convertValue "1" "app" (.map listingParameters) "ubuntu"
      = .error (.expandFailure (.invalidPin "x== ")) := by
    decide +kernel
  obtain ⟨s, p, attributes, buckets, requires, hcheck, -, -, hrequires, hblank⟩ :=
    hiff.1 ⟨_, hfails, rfl⟩
  obtain ⟨-, -, -, hs, -⟩ := check_eq_ok_iff.1 hcheck
  have hschema : listing.registry.get? "app" = some
      { id := "app", resourceType := .file, attributes := .singleton "name" "name",
        states := ["there"], triggers := [⟨"lib", [⟨"list", "names"⟩]⟩] } := rfl
  cases hschema.symm.trans hs
  rcases hblank with ⟨state, own, -, htype | htype, -⟩ | ⟨t, d, hd, -⟩
  · cases htype
  · cases htype
  · obtain ⟨-, docs, -, rfl⟩ := requirements_run_eq_ok_iff.1 hrequires
    cases hd

end Converter

end Provision
