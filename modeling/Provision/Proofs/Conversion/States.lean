import Provision.Conversion.Basic
import Provision.Proofs.Conversion.Own
import Provision.Proofs.Expansion.Copies
import Provision.Proofs.Handler.States

/-!
# The states of emitted documents

Every document that a conversion emits comes from a module of the registry: an own document and
those of prerequisites from what their modules are built with, a trigger's from the default state of
its module (`Compiled.exists_madeBy`, by induction on how the prerequisites are compiled), and the
document of a pinned package from the batch that lists it. So its state is one that its module
declares, with one exception: a path that is to be absent. `emitted_states_exact` says that there is
no other, and that the registries without exception are those in which every module of paths
declares the state of being absent. The file ends with a registry that is not one of them.
-/

namespace Provision.Converter

variable {c : Converter} {pm : PackageManager} {levels : Nat} {step t : String} {s : Schema}
  {params : Parameters} {m : DocumentMap} {d : Document}

/-- A document of a module of the registry, in a step or in those of its prerequisites. -/
structure MadeBy (c : Converter) (step : String) (s : Schema) (t : String) (d : Document) :
    Prop where
  registered : c.registry.get? s.id = some s
  resourceType : d.resourceType = s.resourceType
  /-- The tag tells the module and the state. -/
  tag : ∃ step', (step' = step ∨ step' = requireStep) ∧
    (t = stepTag s.id step' d.state ∨ t = Trigger.tag s.id step' d.state)
  /-- The state is declared, or it is that of a path to be absent. -/
  state : d.state ∈ s.states ∨ s.id ∈ pathModules ∧ d.state = "absent"

/-- Only the type and the state of a document matter to where it comes from. -/
theorem MadeBy.congr {d' : Document} (h : c.MadeBy step s t d)
    (htype : d'.resourceType = d.resourceType) (hstate : d'.state = d.state) :
    c.MadeBy step s t d' := by
  obtain ⟨hregistered, hresource, htag, hdeclared⟩ := h
  rw [← hstate] at htag hdeclared
  exact ⟨hregistered, htype.trans hresource, htag, hdeclared⟩

/-- A prerequisite's documents are documents of the step that requires it. -/
theorem MadeBy.of_requireStep (h : c.MadeBy requireStep s t d) : c.MadeBy step s t d := by
  obtain ⟨hregistered, hresource, ⟨step', hstep, htag⟩, hstate⟩ := h
  exact ⟨hregistered, hresource, ⟨step', .inr (or_self_iff.1 hstep), htag⟩, hstate⟩

/-- An own document is in a declared state, or it is a path to be absent. -/
theorem madeBy_ownDocument {requires triggers : DocumentMap} {attributes own : Attributes}
    {buckets : Buckets} {state : String} (hs : c.registry.get? s.id = some s) (hsound : s.Sound)
    (hbuild : HandlerTable.standard.build s attributes = .ok buckets)
    (hstate : buckets.get? state = some own) :
    c.MadeBy step s (stepTag s.id step state) (ownDocument s requires triggers state own) := by
  refine ⟨hs, rfl, ⟨step, .inl rfl, .inl rfl⟩, ?_⟩
  by_cases hremoves : s.Removes attributes
  · obtain ⟨name, -, rfl⟩ := HandlerTable.buckets_of_removes hremoves hbuild
    rcases Table.contains_insert.1 (Table.contains_of_get? hstate) with rfl | hempty
    · exact .inr ⟨hremoves.1, rfl⟩
    · cases hempty
  · exact .inl (HandlerTable.build_kept hsound.states hremoves hbuild
      (Table.contains_of_get? hstate))

/-- A trigger's document is in the default state of the module that is triggered. -/
theorem exists_madeBy_of_trigger (hsound : c.registry.Sound)
    (hd : (s.triggerDocuments c.registry pm step params).get? t = some d) :
    ∃ s', c.MadeBy step s' t d := by
  obtain ⟨trigger, -, hdocument⟩ := Schema.exists_trigger_of_get? hd
  obtain ⟨s', hget, -, -, rfl, rfl⟩ := Trigger.document?_eq_some_iff.1 hdocument
  have hid := Registry.id_of_get? hget
  rw [← hid] at hget ⊢
  exact ⟨s', hget, rfl, ⟨step, .inl rfl, .inr rfl⟩,
    .inl (Schema.defaultState_mem (hsound.schemas _ _ hget).states)⟩

/-- Whatever is compiled, however deep its prerequisites are nested, comes from modules of the
registry. -/
theorem Compiled.exists_madeBy (h : c.Compiled pm levels step s params m)
    (hhandlers : c.handlers = .standard) (hsound : c.registry.Sound)
    (hs : c.registry.get? s.id = some s) (hd : m.get? t = some d) :
    ∃ s', c.MadeBy step s' t d := by
  -- on how the map is compiled; a document is an own one, a trigger's or a prerequisite's
  induction h generalizing t d with
  | @intro levels step s params attributes buckets docs renamed built nested ih =>
    rw [hhandlers] at built
    by_cases hown : t ∈ ownTags s step buckets
    · obtain ⟨state, own, hstate, rfl, hget⟩ := get?_assemble_own _ _ hown
      cases hget.symm.trans hd
      exact ⟨s, madeBy_ownDocument hs (hsound.schemas _ _ hs) built hstate⟩
    · rw [get?_assemble_of_not_mem hown, Table.get?_union] at hd
      rcases Option.or_eq_some_iff.1 hd with htrigger | ⟨-, hrequired⟩
      · exact exists_madeBy_of_trigger hsound htrigger
      · obtain ⟨m', hm', hget⟩ := DocumentMap.mem_of_get?_merge hrequired
        obtain ⟨q, hq, rfl⟩ := List.mem_map.1 hm'
        obtain ⟨-, hregistered, -⟩ := mem_applicable.1 hq
        rw [← Registry.id_of_get? hregistered] at hregistered
        obtain ⟨s', hmade⟩ := ih q hq hregistered hget
        exact ⟨s', hmade.of_requireStep⟩

/-- What an expansion emits has the type and the state of a document that was there, and its tag or
the tag of one of its pins. -/
theorem exists_madeBy_of_expand {maps : List DocumentMap} {a : DocumentMap}
    (hm : ∀ t d, m.get? t = some d → ∃ s', c.MadeBy step s' t d) (h : m.expand = .ok maps)
    (ha : a ∈ maps) (hd : a.get? t = some d) :
    ∃ s' t', c.MadeBy step s' t' d ∧ (t = t' ∨ ∃ entry, t = pinTag t' entry) := by
  rcases DocumentMap.exists_of_mem_expand h ha hd with ⟨p, hp, pin, rfl, rfl⟩
    | ⟨original, horiginal, rfl | rfl⟩
  · obtain ⟨s', hmade⟩ := hm _ _ (DocumentMap.mem_pinned.1 hp).1
    exact ⟨s', p.tag, hmade.congr rfl rfl, .inr ⟨p.entry, rfl⟩⟩
  · obtain ⟨s', hmade⟩ := hm _ _ horiginal
    exact ⟨s', t, hmade, .inl rfl⟩
  · obtain ⟨s', hmade⟩ := hm _ _ horiginal
    rw [Document.reduced_eq]
    exact ⟨s', t, hmade.congr rfl rfl, .inl rfl⟩

/-- A module of an accepted registry is built with states that it declares, unless it is a path that
is to be absent and does not declare that state. The registries whose modules are always built with
declared states are those in which every module of paths declares it. Every emitted document has the
type and a tag of some registered module, and is in a state that the module declares or is a path to
be absent. -/
theorem emitted_states_exact {r : Registry} (h : ofRegistry r = .ok c) :
    (∀ s ∈ r.all, ∀ a buckets, c.handlers.build s a = .ok buckets →
      ((∀ state, buckets.contains state = true → state ∈ s.states) ↔
        (s.id ∈ pathModules → Attributes.isSet a "absent" = true → "absent" ∈ s.states))) ∧
    ((∀ s ∈ r.all, ∀ a buckets, c.handlers.build s a = .ok buckets →
        ∀ state, buckets.contains state = true → state ∈ s.states) ↔
      ∀ s ∈ r.all, s.id ∈ pathModules → "absent" ∈ s.states) ∧
    ∀ step module params platform maps, c.convert step module params platform = .ok maps →
      ∀ map ∈ maps, ∀ t d, map.get? t = some d →
        ∃ s t', c.MadeBy step s t' d ∧ (t = t' ∨ ∃ entry, t = pinTag t' entry) := by
  obtain ⟨hsound, rfl⟩ := Registry.ofRegistry_eq_ok_iff.1 h
  have hstates : ∀ s ∈ r.all, s.states ≠ [] := by
    intro s hs
    obtain ⟨m, hget⟩ := Registry.mem_all.1 hs
    exact (hsound.schemas m s hget).states
  refine ⟨?_, ⟨?_, ?_⟩, ?_⟩
  · intro s hs a buckets hbuild
    rw [HandlerTable.build_declared_iff (hstates s hs) hbuild]
    exact and_imp
  · intro hdeclared s hs hmodule
    obtain ⟨a, buckets, hbuild, hcontains⟩ := HandlerTable.exists_build_absent hmodule
    exact hdeclared s hs a buckets hbuild "absent" hcontains
  · intro habsent s hs a buckets hbuild
    exact (HandlerTable.build_declared_iff (hstates s hs) hbuild).2 fun hremoves =>
      habsent s hs hremoves.1
  · intro step module params platform maps hconvert map hmap t d hd
    obtain ⟨m, hm, hexpand⟩ := convert_eq_ok_iff.1 hconvert
    obtain ⟨s, p, hcheck, hcompiled⟩ := documents_eq_ok_iff.1 hm
    obtain ⟨-, -, -, hs, -⟩ := check_eq_ok_iff.1 hcheck
    rw [← Registry.id_of_get? hs] at hs
    exact exists_madeBy_of_expand (fun _ _ hget => hcompiled.exists_madeBy rfl hsound hs hget)
      hexpand hmap hd

/-- A file whose module declares no other state than the one of being there. -/
def lastingFile : Schema where
  id := "linux.file"
  resourceType := .file
  attributes := .ofList [("path", "name"), ("absent", "absent")]
  states := ["managed"]

/-- A registry of that module. -/
def lasting : Registry := .ofList [lastingFile]

/-- The registry is accepted, and a step that asks for the file to be absent is converted to a
document in a state that the file does not declare. -/
theorem lasting_emits_absent : ∃ c maps, ofRegistry lasting = .ok c ∧
    c.convert "1" "linux.file" (.ofList [("path", .str "/tmp/x"), ("absent", .bool true)]) "ubuntu"
      = .ok maps ∧
    (∃ map ∈ maps, ∃ t d, map.get? t = some d ∧ d.state = "absent") ∧
    ¬ ∀ s ∈ lasting.all, ∀ a buckets, c.handlers.build s a = .ok buckets →
      ∀ state, buckets.contains state = true → state ∈ s.states := by
  have hc : ofRegistry lasting = .ok { registry := lasting, handlers := .standard } :=
    Registry.ofRegistry_eq_ok_of_rank (fun _ => 0) (by decide +kernel) (by decide +kernel)
  obtain ⟨-, hall, -⟩ := emitted_states_exact hc
  have hmem : lastingFile ∈ lasting.all := by decide +kernel
  have hundeclared : ¬ ∀ s ∈ lasting.all, s.id ∈ pathModules → "absent" ∈ s.states := fun h =>
    absurd (h lastingFile hmem (by decide)) (by decide)
  refine ⟨_, [.singleton "_1_linux_file_absent"
    { resourceType := .file, state := "absent", attributes := .singleton "name" (.str "/tmp/x") }],
    hc, ?_, ?_, fun h => hundeclared (hall.1 h)⟩
  · decide +kernel
  · exact ⟨_, List.mem_singleton_self _, _, _, Table.get?_insert_self, rfl⟩

end Provision.Converter
