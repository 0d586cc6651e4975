import Provision.Proofs.Conversion.Apart
import Provision.Proofs.Conversion.Phases
import Provision.Proofs.Expansion.Copies
import Provision.Proofs.Renaming

/-!
# The parameters that a module recognizes

A module recognizes the keys of its rename table, and a null says as much as a missing parameter
does. Renaming looks at nothing else (`Schema.rename_congr`), so parameters that agree where the
module looks give the same own attributes and prerequisites. Triggers have another way to the
parameters: a source is first looked up as it stands, and only if no parameter has that name it is a
template, whose words ask for parameters by name. A template of the standard modules asks for
recognized parameters only. So what a standard module does not recognize is ignored unless it is
named like a whole source (`TriggerAttribute.value?_congr`), and then exactly the values that the
triggers get make the difference.
-/

namespace Provision

/-- The value of a parameter that says something: a null counts as missing. -/
def Parameters.given? (params : Parameters) (k : String) : Option Value :=
  (params.get? k).filter (!·.isNull)

/-- Two parameter sets give the same value, or none, under each key that a module recognizes. -/
def Schema.AgreeOn (s : Schema) (params params' : Parameters) : Prop :=
  ∀ k, s.attributes.contains k = true → params.given? k = params'.given? k

instance (s : Schema) (params params' : Parameters) : Decidable (s.AgreeOn params params') :=
  decidable_of_iff (∀ k ∈ s.attributes.keys, params.given? k = params'.given? k) <| by
    unfold Schema.AgreeOn
    simp only [Table.mem_keys]

namespace Schema

variable {s : Schema} {params params' : Parameters}

/-! ## Renaming -/

/-- Parameters that agree where the module looks are renamed to the same attributes. -/
theorem rename_congr (h : s.AgreeOn params params') : s.rename params = s.rename params' := by
  have hrecognized : s.recognized params = s.recognized params' := by
    apply Table.ext_get?
    intro k
    unfold recognized
    rw [Table.get?_filter, Table.get?_filter]
    cases hk : s.attributes.contains k with
    | true => simpa [Parameters.given?] using h k hk
    | false => simp
  rw [rename_eq, rename_eq, ← attributesOf_recognized, hrecognized, attributesOf_recognized]

end Schema

/-! ## Triggers -/

/-- The parameters that a template asks for. -/
def templateKeys (template : String) : List String :=
  (Text.words template.toList).filterMap fun
    | '$' :: name => some (String.ofList name)
    | _ => none

theorem replaceWord_dollar {params : Parameters} {name : List Char} :
    replaceWord params ('$' :: name) =
      ((params.given? (String.ofList name)).bind Value.toText?).map String.toList := by
  have hgiven : (params.get? (String.ofList name)).bind Value.toText? =
      (params.given? (String.ofList name)).bind Value.toText? := by
    unfold Parameters.given?
    cases params.get? (String.ofList name) with
    | none => rfl
    | some v => cases v <;> rfl
  rw [← hgiven]
  rfl

/-- A template is filled by the parameters that it asks for. -/
theorem fillTemplate_congr {template : String} {params params' : Parameters}
    (h : ∀ k ∈ templateKeys template, params.given? k = params'.given? k) :
    fillTemplate template params = fillTemplate template params' := by
  have hwords : ∀ word ∈ Text.words template.toList,
      replaceWord params word = replaceWord params' word := by
    intro word hword
    by_cases hdollar : ∃ name, word = '$' :: name
    · obtain ⟨name, rfl⟩ := hdollar
      rw [replaceWord_dollar, replaceWord_dollar, h _ (List.mem_filterMap.2 ⟨_, hword, rfl⟩)]
    · have hplain : ∀ params : Parameters, replaceWord params word = some word := by
        intro params
        unfold replaceWord
        split
        · exact absurd ⟨_, rfl⟩ hdollar
        · rfl
      rw [hplain, hplain]
  unfold fillTemplate
  rw [mapM_congr_of_mem hwords]

/-- A source that no parameter is named like gives what its template gives. -/
theorem TriggerAttribute.value?_congr {a : TriggerAttribute} {params params' : Parameters}
    (hsource : params.contains a.source = false) (hsource' : params'.contains a.source = false)
    (h : ∀ k ∈ templateKeys a.source, params.given? k = params'.given? k) :
    a.value? params = a.value? params' := by
  unfold value?
  rw [Option.not_isSome_iff_eq_none.1 (Bool.eq_false_iff.1 hsource),
    Option.not_isSome_iff_eq_none.1 (Bool.eq_false_iff.1 hsource'), fillTemplate_congr h]

/-- The attributes of a trigger depend on what its own attributes give. -/
theorem Trigger.attributesFor_congr {t : Trigger} {params params' : Parameters}
    (h : ∀ a ∈ t.attributes, a.value? params = a.value? params') :
    t.attributesFor params = t.attributesFor params' := by
  unfold attributesFor
  congr 1
  refine List.filterMap_congr fun a ha => ?_
  unfold TriggerAttribute.entry?
  rw [h a ha]

/-- Triggers that get the same make the same documents. -/
theorem Schema.triggerDocuments_congr_params {s : Schema} {params params' : Parameters}
    (h : ∀ t ∈ s.triggers, ∀ a ∈ t.attributes, a.value? params = a.value? params') (r : Registry)
    (pm : PackageManager) (step : String) :
    s.triggerDocuments r pm step params = s.triggerDocuments r pm step params' := by
  unfold triggerDocuments
  congr 1
  refine List.filterMap_congr fun t ht => ?_
  unfold Trigger.document?
  rw [Trigger.attributesFor_congr (h t ht)]

/-! ## What the maps tell of the triggers -/

/-- The value that a trigger passes on can be read off what it gets. -/
theorem Trigger.get?_attributesFor {t : Trigger} {a : TriggerAttribute} (ha : t.attributes = [a])
    (htarget : a.target ≠ "") (params : Parameters) :
    (t.attributesFor params).get? a.target = a.value? params := by
  have hentries : t.attributes.filterMap (TriggerAttribute.entry? · params) =
      ((a.value? params).map (a.target, ·)).toList := by
    rw [ha, List.filterMap_cons, List.filterMap_nil]
    unfold TriggerAttribute.entry?
    rw [if_neg htarget]
    cases a.value? params <;> rfl
  unfold attributesFor
  rw [hentries]
  cases a.value? params with
  | none => rfl
  | some v => exact Table.get?_insert_self

/-- What a module's only trigger gets can be read off the trigger documents. -/
theorem Schema.attributesFor_eq_of_triggerDocuments_eq {s s' : Schema} {t : Trigger}
    (ht : s.triggers = [t]) {r : Registry} {pm : PackageManager} (hget : r.get? t.module = some s')
    (hruns : s'.runsWith pm = true) {step : String} {params params' : Parameters}
    (h : s.triggerDocuments r pm step params = s.triggerDocuments r pm step params') :
    t.attributesFor params = t.attributesFor params' := by
  have hdocuments : ∀ params, (s.triggerDocuments r pm step params).get?
      (Trigger.tag t.module step s'.defaultState) =
        if (t.attributesFor params).isEmpty then none
        else some { resourceType := s'.resourceType, state := s'.defaultState,
                    attributes := t.attributesFor params, scope := some .shared } := by
    intro params
    unfold triggerDocuments
    rw [ht, List.filterMap_cons, List.filterMap_nil]
    cases hempty : (t.attributesFor params).isEmpty with
    | true =>
      have hnone : t.document? r pm step params = none := by
        rw [Option.eq_none_iff_forall_ne_some]
        intro e he
        obtain ⟨-, -, -, hsome, -⟩ := Trigger.document?_eq_some_iff.1 he
        rw [hempty] at hsome
        cases hsome
      rw [hnone]
      rfl
    | false =>
      rw [Trigger.document?_eq_some_iff.2 ⟨s', hget, hruns, hempty, rfl, rfl⟩]
      exact Table.get?_insert_self
  have heq := hdocuments params
  rw [h, hdocuments params'] at heq
  cases hempty : (t.attributesFor params).isEmpty <;>
    cases hempty' : (t.attributesFor params').isEmpty <;>
    simp only [hempty, hempty', if_true, if_false, Bool.false_eq_true, reduceCtorEq,
      Option.some.injEq, Document.mk.injEq, true_and] at heq
  · exact heq.1.symm
  · -- nothing is nothing
    exact Table.ext ((List.isEmpty_iff.1 hempty).trans (List.isEmpty_iff.1 hempty').symm)

namespace Converter

variable {s : Schema} {step : String} {requires T T' : DocumentMap} {buckets : Buckets}

/-- The trigger documents can be read off the last map, if all tags are different and no trigger
lists pins. -/
theorem triggers_within_of_reduce_eq (h : (ownTags s step buckets ++ T.keys ++ requires.keys).Nodup)
    (h' : (ownTags s step buckets ++ T'.keys ++ requires.keys).Nodup)
    (hpins : ∀ t d, T.get? t = some d → d.pins = [])
    (hpins' : ∀ t d, T'.get? t = some d → d.pins = [])
    (heq : (assemble s step requires T buckets).reduce =
      (assemble s step requires T' buckets).reduce)
    {t : String} {d : Document} (hd : T.get? t = some d) : T'.get? t = some d := by
  have hreduced := congrArg (Table.get? · t) heq
  simp only [DocumentMap.get?_reduce, get?_assemble_trigger h hd, Option.map_some] at hreduced
  rw [Document.reduced_of_pins_eq_nil (hpins t d hd)] at hreduced
  obtain ⟨d', hd', hdd'⟩ := Option.map_eq_some_iff.1 hreduced.symm
  -- the tag is that of no own document and of no prerequisite, so a trigger of the other map has it
  obtain ⟨hfront, -, hrequired⟩ := List.nodup_append.1 h
  obtain ⟨-, -, hown⟩ := List.nodup_append.1 hfront
  have hkey : t ∈ T.keys := Table.mem_keys.2 (Table.contains_of_get? hd)
  have htrigger : T'.contains t = true := by
    rcases contains_assemble.1 (Table.contains_of_get? hd') with ht | ht | ht
    · exact absurd rfl (hown t ht t hkey)
    · exact ht
    · exact absurd rfl (hrequired t (List.mem_append_right _ hkey) t (Table.mem_keys.2 ht))
  obtain ⟨d₁, hd₁⟩ := Table.contains_iff.1 htrigger
  rw [get?_assemble_trigger h' hd₁] at hd'
  rw [hd₁, ← hdd', ← Option.some.inj hd', Document.reduced_of_pins_eq_nil (hpins' t d₁ hd₁)]

/-- If the tags are apart and triggers have no pins, the documents of the triggers can be told from
the whole map. -/
theorem triggers_eq_of_reduce_eq (h : (ownTags s step buckets ++ T.keys ++ requires.keys).Nodup)
    (h' : (ownTags s step buckets ++ T'.keys ++ requires.keys).Nodup)
    (hpins : ∀ t d, T.get? t = some d → d.pins = [])
    (hpins' : ∀ t d, T'.get? t = some d → d.pins = [])
    (heq : (assemble s step requires T buckets).reduce =
      (assemble s step requires T' buckets).reduce) :
    T = T' := by
  apply Table.ext_get?
  intro t
  ext d
  exact ⟨triggers_within_of_reduce_eq h h' hpins hpins' heq,
    triggers_within_of_reduce_eq h' h hpins' hpins heq.symm⟩

/-! ## The standard modules -/

variable {module platform : String} {params params' : Parameters} {s' : Schema} {t : Trigger}
  {pm : PackageManager}

/-- What the standard modules with triggers have in common: one trigger that passes one attribute on
and can run everywhere, a template that asks for recognized parameters, no prerequisites, and no
lists of packages. -/
structure Announces (s : Schema) (t : Trigger) (s' : Schema) : Prop where
  triggers : s.triggers = [t]
  attributes : ∃ a, t.attributes = [a] ∧ a.target ≠ ""
  asks : ∀ a ∈ t.attributes, ∀ k ∈ templateKeys a.source, s.attributes.contains k = true
  module : standard.registry.get? t.module = some s'
  runs : s'.packageManager = none
  own : s.resourceType.isVersionAware = false
  triggered : s'.resourceType.isVersionAware = false
  requires : s.requires = []

/-- Every standard module with a trigger is like that. -/
theorem exists_announces (hs : s ∈ standardSchemas) (ht : t ∈ s.triggers) :
    ∃ s', Announces s t s' := by
  have hall : ∀ s ∈ standardSchemas, ∀ t ∈ s.triggers,
      s.triggers = [t] ∧ (∃ a ∈ t.attributes, t.attributes = [a] ∧ a.target ≠ "") ∧
        (∀ a ∈ t.attributes, ∀ k ∈ templateKeys a.source, s.attributes.contains k = true) ∧
        ∃ s' ∈ standardSchemas, s'.id = t.module ∧ s'.packageManager = none ∧
          s.resourceType.isVersionAware = false ∧ s'.resourceType.isVersionAware = false ∧
          s.requires = [] := by
    decide +kernel
  obtain ⟨htriggers, ⟨a, -, ha⟩, hasks, s', hs', hid, hruns, hown, htriggered, hrequires⟩ :=
    hall s hs t ht
  exact ⟨s', htriggers, ⟨a, ha⟩, hasks, hid ▸ Registry.get?_standard_of_mem hs', hruns, hown,
    htriggered, hrequires⟩

/-- What these triggers make has no pins in it. -/
theorem Announces.pins_trigger (h : Announces s t s') {u : String} {d : Document}
    (hd : (s.triggerDocuments standard.registry pm step params).get? u = some d) : d.pins = [] := by
  obtain ⟨trigger, htrigger, hdocument⟩ := Schema.exists_trigger_of_get? hd
  obtain ⟨s'', hget, -, -, -, rfl⟩ := Trigger.document?_eq_some_iff.1 hdocument
  rw [h.triggers, List.mem_singleton] at htrigger
  rw [htrigger, h.module] at hget
  cases hget
  by_contra hpins
  exact absurd (Document.isVersionAware_of_pins_ne_nil hpins) (Bool.eq_false_iff.1 h.triggered)

/-- A module with triggers has nothing to be taken apart. -/
theorem Announces.expand_eq (h : Announces s t s') {attributes : Attributes}
    (hbuild : standard.handlers.build s attributes = .ok buckets) :
    (assemble s step ∅ (s.triggerDocuments standard.registry pm step params) buckets).expand =
      .ok [(assemble s step ∅ (s.triggerDocuments standard.registry pm step params)
        buckets).reduce] := by
  have hpins : ∀ u d,
      (assemble s step ∅ (s.triggerDocuments standard.registry pm step params) buckets).get? u
      = some d → d.pins = [] := by
    intro u d hd
    by_cases hown : u ∈ ownTags s step buckets
    · obtain ⟨state, own, -, -, hget⟩ :=
        get?_assemble_own ∅ (s.triggerDocuments standard.registry pm step params) hown
      rw [hget] at hd
      by_contra hpins
      rw [← Option.some.inj hd] at hpins
      exact absurd (Document.isVersionAware_of_pins_ne_nil hpins) (Bool.eq_false_iff.1 h.own)
    · rw [get?_assemble_of_not_mem hown, Table.get?_union] at hd
      rcases Option.or_eq_some_iff.1 hd with htrigger | ⟨-, hnone⟩
      · exact h.pins_trigger htrigger
      · cases hnone
  have hpinned : (assemble s step ∅ (s.triggerDocuments standard.registry pm step params)
      buckets).pinned = [] := by
    rw [List.eq_nil_iff_forall_not_mem]
    intro p hp
    obtain ⟨hget, hentry⟩ := DocumentMap.mem_pinned.1 hp
    rw [hpins p.tag p.batch hget] at hentry
    cases hentry
  rw [DocumentMap.expand_eq, isEmpty_assemble hbuild, hpinned]
  rfl

/-- A standard module with triggers requires nothing. -/
theorem Announces.requires_eq (h : Announces s t s') {p : Platform}
    (hrequires : (standard.requirements s).run
      (Context.start p) = (.ok requires, Context.start p)) :
    requires = ∅ := by
  obtain ⟨-, docs, -, rfl⟩ := requirements_run_eq_ok_iff.1 hrequires
  unfold required applicable
  rw [h.requires]
  rfl

/-- Two parameter sets that a module cannot tell apart where it looks are converted to the same maps
exactly if its triggers get the same from both. -/
theorem expand_eq_iff_triggers (step : String) (params params' : Parameters)
    (hs : s ∈ standardSchemas) {p : Platform} {attributes : Attributes}
    (hbuild : standard.handlers.build s attributes = .ok buckets)
    (hrequires : (standard.requirements s).run
      (Context.start p) = (.ok requires, Context.start p)) :
    AgreeUpTo
      (fun maps maps' => maps = maps' ↔
        ∀ t ∈ s.triggers, ∀ a ∈ t.attributes, a.value? params = a.value? params')
      (assemble s step requires
        (s.triggerDocuments standard.registry p.packageManager step params) buckets).expand
      (assemble s step requires
        (s.triggerDocuments standard.registry p.packageManager step params') buckets).expand := by
  have hsame : (∀ t ∈ s.triggers, ∀ a ∈ t.attributes, a.value? params = a.value? params') →
      s.triggerDocuments standard.registry p.packageManager step params =
        s.triggerDocuments standard.registry p.packageManager step params' := fun hvalues =>
    Schema.triggerDocuments_congr_params hvalues _ _ _
  cases htriggers : s.triggers with
  | nil =>
    rw [hsame (by simp [htriggers])]
    cases (assemble s step requires
      (s.triggerDocuments standard.registry p.packageManager step params') buckets).expand with
    | error e => exact .error e
    | ok maps => exact .ok (iff_of_true rfl (by simp))
  | cons t rest =>
    obtain ⟨s', ht⟩ := exists_announces hs (htriggers ▸ List.mem_cons_self ..)
    obtain ⟨-, docs, hnested, hdocs⟩ := requirements_run_eq_ok_iff.1 hrequires
    have hnodup : ∀ params, (ownTags s step buckets ++
        (s.triggerDocuments standard.registry p.packageManager step params).keys ++
          requires.keys).Nodup := by
      intro params
      rw [hdocs]
      exact nodup_tags hs hbuild hnested
    rw [← htriggers]
    obtain rfl := ht.requires_eq hrequires
    rw [ht.expand_eq hbuild, ht.expand_eq hbuild]
    refine .ok ⟨fun heq => ?_, fun hvalues => by rw [hsame hvalues]⟩
    have hdocuments :=
      triggers_eq_of_reduce_eq (hnodup params) (hnodup params') (fun _ _ => ht.pins_trigger)
      (fun _ _ => ht.pins_trigger) (List.singleton_inj.1 heq)
    have hruns : s'.runsWith p.packageManager = true := by
      unfold Schema.runsWith
      rw [ht.runs]
    have hattributes :=
      Schema.attributesFor_eq_of_triggerDocuments_eq ht.triggers ht.module hruns hdocuments
    obtain ⟨a, ha, htarget⟩ := ht.attributes
    intro t' ht' a' ha'
    rw [ht.triggers, List.mem_singleton] at ht'
    rw [ht', ha, List.mem_singleton] at ha'
    rw [ha', ← Trigger.get?_attributesFor ha htarget params, hattributes,
      Trigger.get?_attributesFor ha htarget params']

/-- What a standard module does not recognize can do no more than change what a trigger gets.
Parameters that agree on the keys of the rename table, nulls counting as missing, fail with one
error, or they give the same attributes, states and prerequisites; the maps are the same exactly if
the triggers get the same, and that they do if no parameter has a trigger's whole source as its
name. -/
theorem standard_unrecognized (step module platform : String)
    (h : ∀ s, standard.registry.get? module = some s → s.AgreeOn params params') :
    AgreeUpTo
      (fun maps maps' => ∃ s p attributes buckets requires,
        standard.registry.get? module = some s ∧ Named.ofName? platform = some p ∧
        s.rename params = .ok attributes ∧ s.rename params' = .ok attributes ∧
        standard.handlers.build s attributes = .ok buckets ∧
        (standard.requirements s).run (Context.start p) = (.ok requires, Context.start p) ∧
        (assemble s step requires
          (s.triggerDocuments standard.registry p.packageManager step params) buckets).expand =
            .ok maps ∧
        (assemble s step requires
          (s.triggerDocuments standard.registry p.packageManager step params') buckets).expand =
            .ok maps' ∧
        (maps = maps' ↔ ∀ t ∈ s.triggers, ∀ a ∈ t.attributes, a.value? params = a.value? params') ∧
        ((∀ t ∈ s.triggers, ∀ a ∈ t.attributes,
          params.contains a.source = false ∧ params'.contains a.source = false) → maps = maps'))
      (standard.convert step module params platform)
      (standard.convert step module params' platform) := by
  rw [convert_eq, convert_eq]
  unfold documents
  cases hcheck : standard.check step module platform with
  | error e => exact .error e
  | ok found =>
    obtain ⟨s, p⟩ := found
    obtain ⟨-, -, hp, hget, -⟩ := check_eq_ok_iff.1 hcheck
    obtain ⟨hs, -⟩ := Registry.mem_of_get?_ofList hget
    have hrename := Schema.rename_congr (h s hget)
    refine (compile_start_agree hrename).bind fun m m' hm => ?_
    obtain ⟨attributes, buckets, requires, renamed, built, hrequires, rfl, rfl⟩ := hm
    rcases expand_eq_iff_triggers step params params' hs built hrequires with
      ⟨e, he, he'⟩ | ⟨maps, maps', hmaps, hmaps', hiff⟩
    · rw [he, he']
      exact .error e
    · rw [hmaps, hmaps']
      refine .ok ⟨s, p, attributes, buckets, requires, hget, hp, renamed, hrename ▸ renamed, built,
        hrequires, hmaps, hmaps', hiff, fun hsources => hiff.2 fun t ht a ha => ?_⟩
      -- a source that is no parameter's name is a template, and it asks for recognized parameters
      obtain ⟨hsource, hsource'⟩ := hsources t ht a ha
      obtain ⟨s', hannounces⟩ := exists_announces hs ht
      exact TriggerAttribute.value?_congr hsource hsource' fun k hk =>
        h s hget k (hannounces.asks a ha k hk)

/-- The parameters of a repository, and the same with one that is named like the source of the
module's trigger. -/
def plainRepository : Parameters := .singleton "name" (.str "epel")

def shadowedRepository : Parameters :=
  plainRepository.insert "yum-config-manager --enable $name" (.str "evil")

/-- The parameter is not recognized, and yet the trigger gets it in place of its command. -/
theorem shadowedRepository_not_ignored :
    (∃ s, standard.registry.get? "linux.yum.repo" = some s ∧
      s.attributes.contains "yum-config-manager --enable $name" = false ∧
      s.AgreeOn plainRepository shadowedRepository) ∧
    ∃ maps maps', standard.convert "1" "linux.yum.repo" plainRepository "centos" = .ok maps ∧
      standard.convert "1" "linux.yum.repo" shadowedRepository "centos" = .ok maps' ∧
      maps ≠ maps' := by
  have hschema : ∃ s ∈ standard.registry.get? "linux.yum.repo",
      s.attributes.contains "yum-config-manager --enable $name" = false ∧
      s.AgreeOn plainRepository shadowedRepository ∧
      ¬ ∀ t ∈ s.triggers, ∀ a ∈ t.attributes,
      a.value? plainRepository = a.value? shadowedRepository := by
    decide +kernel
  obtain ⟨s, hs, hkey, hagree, hvalues⟩ := hschema
  refine ⟨⟨s, hs, hkey, hagree⟩, ?_⟩
  rcases standard_unrecognized "1" "linux.yum.repo" "centos"
    (fun s' hs' => Option.some.inj (hs.symm.trans hs') ▸ hagree)
    with ⟨e, h, -⟩ | ⟨maps, maps', h, h', s', -, -, -, -, hs', -, -, -, -, -, -, -, hiff, -⟩
  · have hok : (standard.convert "1" "linux.yum.repo" plainRepository "centos").isOk = true := by
      decide +kernel
    rw [h] at hok
    cases hok
  · obtain rfl : s = s' := Option.some.inj (hs.symm.trans hs')
    exact ⟨maps, maps', h, h', fun heq => hvalues (hiff.1 heq)⟩

end Converter

end Provision
