import Provision.Proofs.Conversion.Edges
import Provision.Proofs.Expansion.Exact
import Provision.Proofs.Tag

/-!
# A step's own documents

The own documents of a step are written last, each under a tag of its own (`stepTag_injective`), so
the tag of a state has the own document of that state whatever the prerequisites and triggers have
put there (`get?_assemble_stepTag`). Taking version pins out afterwards changes the list of packages
and nothing else. So the last map of a conversion holds every own document complete: the state's
attributes, an edge to each document of the prerequisites and of the triggers, and the scope that
goes with triggers. The file ends with a step whose own document has the tag of a prerequisite's.
-/

namespace Provision.Converter

variable {c : Converter} {step module platform state : String} {s : Schema} {params : Parameters}
  {requires triggers : DocumentMap} {maps : List DocumentMap} {buckets : Buckets}
  {attributes : Attributes}

/-- Own documents stand under the tags of their states, whatever stood there before. -/
theorem get?_assemble_stepTag (h : buckets.get? state = some attributes) :
    (assemble s step requires triggers buckets).get? (stepTag s.id step state) =
      some (ownDocument s requires triggers state attributes) := by
  refine Table.get?_insertAll_of_mem (List.pairwise_map.2 ?_)
    (List.mem_map.2 ⟨(state, attributes), Table.get?_eq_some_iff.1 h, rfl⟩)
  exact Table.pairwise_ne.imp fun hne htag => hne (stepTag_injective htag)

/-- The tag of a state has the own document of the state, or nothing if nothing else has the tag. -/
theorem get?_assemble_stepTag_eq_map
    (h : (requires.union triggers).get? (stepTag s.id step state) = none) :
    (assemble s step requires triggers buckets).get? (stepTag s.id step state) =
      (buckets.get? state).map (ownDocument s requires triggers state) := by
  cases hstate : buckets.get? state with
  | some attributes => exact get?_assemble_stepTag hstate
  | none =>
    rw [get?_assemble_of_not_mem, h, Option.map_none]
    intro hmem
    obtain ⟨bucket, hbucket, htag⟩ := List.mem_map.1 hmem
    rw [← stepTag_injective htag, Table.get?_eq_some_iff.2 hbucket] at hstate
    cases hstate

/-- A conversion that succeeds has sorted the step's attributes into states and compiled its
prerequisites, and the last map has the complete document of every state under a tag of its own. -/
theorem getLast?_convert_own (h : c.convert step module params platform = .ok maps) :
    ∃ s p attributes buckets requires main,
      c.registry.get? module = some s ∧ Named.ofName? platform = some p ∧
      s.rename params = .ok attributes ∧ c.handlers.build s attributes = .ok buckets ∧
      (c.requirements s).run (Context.start p) = (.ok requires, Context.start p) ∧
      maps.getLast? = some main ∧
      (∀ state own, buckets.get? state = some own →
        main.get? (stepTag module step state) = some
          ({ resourceType := s.resourceType
             state := state
             attributes := own
             requires := requires.entries.map fun e => ⟨e.2.resourceType, e.1⟩
             requiredBy := (s.triggerDocuments c.registry p.packageManager step params).entries.map
               fun e => ⟨e.2.resourceType, e.1⟩
             scope := if s.triggers = [] then none else some .shared } : Document).withoutPins) ∧
      ∀ state state', stepTag module step state = stepTag module step state' → state = state' := by
  obtain ⟨m, hm, hexpand⟩ := convert_eq_ok_iff.1 h
  unfold documents at hm
  obtain ⟨⟨s, p⟩, hcheck, hcompiled⟩ := bind_eq_ok_iff.1 hm
  obtain ⟨-, -, hp, hs, -⟩ := check_eq_ok_iff.1 hcheck
  obtain ⟨attributes, buckets, requires, hrename, hbuild, hrequires, rfl⟩ :=
    compile_start_eq_ok_iff_assemble.1 hcompiled
  refine ⟨s, p, attributes, buckets, requires, _, hs, hp, hrename, hbuild, hrequires,
    DocumentMap.getLast?_expand hexpand, fun state own hown => ?_, fun _ _ => stepTag_injective⟩
  have hid : s.id = module := Registry.id_of_get? hs
  rw [DocumentMap.get?_reduce, ← hid, get?_assemble_stepTag hown, Option.map_some,
    ← Document.withoutPins_eq_reduced]
  simp only [ownDocument, List.isEmpty_iff]
  rfl

/-- Python packages that require a file, whose module's name makes the same part of a tag. -/
def lookalikeSchema : Schema :=
  { id := "a.b", resourceType := .pip, attributes := .singleton "name" "names", states := ["there"],
    requires := [⟨"a_b", .singleton "name" (.str "required")⟩] }

/-- A converter that knows the two modules. -/
def lookalike : Converter where
  registry := .ofList [
    { id := "a_b", resourceType := .file, attributes := .singleton "name" "name",
      states := ["there"] },
    lookalikeSchema]
  handlers := .standard

/-- In a step that has the name of the step of prerequisites both documents have one tag, and the
own one is there, with an edge to the tag and without the package that has a version. -/
theorem lookalike_own_survives : ofRegistry lookalike.registry = .ok lookalike ∧
    ∃ maps main, lookalike.convert "require" "a.b"
        (.singleton "name" (.strings ["six==1.16", "wheel"])) "ubuntu" = .ok maps ∧
      maps.getLast? = some main ∧
      main.get? "_require_a_b_there" = some
        { resourceType := .pip, state := "there",
          attributes := .singleton "names" (.strings ["wheel"]),
          requires := [⟨.file, "_require_a_b_there"⟩] } := by
  have hregistry : ofRegistry lookalike.registry = .ok lookalike :=
    Registry.ofRegistry_eq_ok_of_rank (fun m => if m = "a.b" then 1 else 0)
      (by decide +kernel) (by decide +kernel)
  let packages : Value := .strings ["six==1.16", "wheel"]
  let required : DocumentMap := .singleton "_require_a_b_there"
    { resourceType := .file, state := "there", attributes := .singleton "name" (.str "required") }
  have hrequired : ((lookalike.requirements lookalikeSchema).run (Context.start .ubuntu)).1
      = .ok required := by
    decide +kernel
  obtain ⟨maps, h⟩ := exists_eq_ok_of_isOk
    (show (lookalike.convert "require" "a.b" (.singleton "name" packages) "ubuntu").isOk = true by
      decide +kernel)
  obtain ⟨s, p, attributes, buckets, requires, main, hs, hp, hrename, hbuild, hrequires, hlast,
    hown, -⟩ :=
    getLast?_convert_own h
  -- all that the theorem says to exist is computed here
  have hschema : lookalike.registry.get? "a.b" = some lookalikeSchema := rfl
  cases hs.symm.trans hschema
  have hplatform : Named.ofName? "ubuntu" = some Platform.ubuntu := rfl
  cases hp.symm.trans hplatform
  have hrenamed : lookalikeSchema.rename (.singleton "name" packages) =
      .ok (.singleton "names" packages) := rfl
  cases hrename.symm.trans hrenamed
  have hbuilt : lookalike.handlers.build lookalikeSchema (.singleton "names" packages)
      = .ok (.singleton "there" (.singleton "names" packages)) := rfl
  cases hbuild.symm.trans hbuilt
  cases (congrArg Prod.fst hrequires).symm.trans hrequired
  have htag : stepTag "a.b" "require" "there" = "_require_a_b_there" := by decide +kernel
  rw [← htag]
  exact ⟨hregistry, maps, main, h, hlast, (hown "there" _ rfl).trans (by decide +kernel)⟩

end Provision.Converter
