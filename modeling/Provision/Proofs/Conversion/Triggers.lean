import Provision.Proofs.Conversion.Assembled
import Provision.Proofs.Renaming
import Provision.Proofs.Registry.Check
import Provision.Proofs.Schema.Draft
import Provision.Proofs.Tag

/-!
# What becomes of triggers

A trigger is due if its module is registered and can run on the host and one of its attributes
yields a value (`Trigger.Due`). What it makes then is a document of the triggered module in its
first state that has these attributes and nothing else (`Trigger.document?_eq_some_iff_makes`).

A tag names the triggered module and that state, but not the trigger: of several due triggers with
one tag only the last one's document is there. None gets lost exactly if no two of them have one tag
(`Schema.triggers_lossless_iff`), which does not depend on the step (`Trigger.tagIn_eq_tagIn_iff`).

A draft triggers no module twice (`Draft.nodup_triggers_ofParts`), so it can only lose documents of
modules whose tags coincide. But a registry takes other schemas as well: `siteSchema` triggers one
module twice, in a sound registry, and the first of the two is lost.
-/

namespace Provision

variable {params : Parameters} {v : Value}

/-! ## What an attribute yields -/

/-- What stands in the place of a template's word: the text of the parameter that it asks for, or
the word. -/
inductive Replaced (params : Parameters) : List Char → List Char → Prop
  | parameter {name : List Char} {v : Value} {text : String}
      (hv : params.get? (String.ofList name) = some v) (htext : v.toText? = some text) :
      Replaced params ('$' :: name) text.toList
  | plain {word : List Char} (h : word.head? ≠ some '$') : Replaced params word word

/-- A word of a template becomes what `Replaced` says, or there is nothing for it. -/
theorem replaceWord_eq_some_iff {word word' : List Char} :
    replaceWord params word = some word' ↔ Replaced params word word' := by
  constructor
  · intro h
    unfold replaceWord at h
    split at h
    · obtain ⟨text, hbind, rfl⟩ := Option.map_eq_some_iff.1 h
      obtain ⟨v, hv, htext⟩ := Option.bind_eq_some_iff.1 hbind
      exact .parameter hv htext
    · next hplain =>
      rw [← Option.some.inj h]
      refine .plain fun hhead => ?_
      obtain ⟨name, rfl⟩ := List.head?_eq_some_iff.1 hhead
      exact hplain name rfl
  · intro h
    cases h with
    | parameter hv htext =>
      simp only [replaceWord, hv, htext, Option.bind_some, Option.map_some]
    | plain h =>
      unfold replaceWord
      split
      · exact absurd rfl h
      · rfl

/-- A template is filled when all of its words have something in their place. -/
theorem fillTemplate_eq_some_iff {template text : String} :
    fillTemplate template params = some text ↔
    ∃ words, List.Forall₂ (Replaced params) (Text.words template.toList) words ∧
      String.ofList ([' '].intercalate words) = text := by
  unfold fillTemplate
  simp only [Option.map_eq_some_iff, mapM_eq_some_iff_forall₂, replaceWord_eq_some_iff]

namespace TriggerAttribute

variable {a : TriggerAttribute}

/-- The value of an attribute: a parameter as it is unless it is null, or else a template with all
of its `$` words replaced. -/
inductive Yields (params : Parameters) (a : TriggerAttribute) : Value → Prop
  | copied {v : Value} (h : params.get? a.source = some v) (hnull : v ≠ .null) : Yields params a v
  | filled {words : List (List Char)} (h : params.get? a.source = none)
      (hdollar : '$' ∈ a.source.toList)
      (hwords : List.Forall₂ (Replaced params) (Text.words a.source.toList) words) :
      Yields params a (.str (String.ofList ([' '].intercalate words)))

/-- A source gives the parameter of its name and, if there is none, its words with the parameters in
their places. -/
theorem value?_eq_some_iff : a.value? params = some v ↔ a.Yields params v := by
  unfold value?
  constructor
  · intro h
    cases hsource : params.get? a.source with
    | some w =>
      rw [hsource] at h
      obtain ⟨hnull, hw⟩ := Option.ite_none_left_eq_some.1 h
      rw [← Option.some.inj hw]
      exact .copied hsource fun he => hnull (Value.isNull_eq_true_iff.2 he)
    | none =>
      rw [hsource] at h
      obtain ⟨hdollar, hfilled⟩ := Option.ite_none_right_eq_some.1 h
      obtain ⟨text, htext, rfl⟩ := Option.map_eq_some_iff.1 hfilled
      obtain ⟨words, hwords, rfl⟩ := fillTemplate_eq_some_iff.1 htext
      exact .filled hsource (List.contains_iff_mem.1 hdollar) hwords
  · intro h
    cases h with
    | copied hsource hnull =>
      rw [hsource]
      exact if_neg fun h => hnull (Value.isNull_eq_true_iff.1 h)
    | filled hsource hdollar hwords =>
      rw [hsource]
      refine (if_pos (List.contains_iff_mem.2 hdollar)).trans ?_
      rw [fillTemplate_eq_some_iff.2 ⟨_, hwords, rfl⟩, Option.map_some]

/-- An attribute passes its value on under its target, if it has one. -/
theorem entry?_eq_some_iff {e : String × Value} : a.entry? params = some e ↔
    a.target ≠ "" ∧ e.1 = a.target ∧ a.Yields params e.2 := by
  unfold entry?
  rw [Option.ite_none_left_eq_some, Option.map_eq_some_iff]
  refine and_congr_right' ?_
  constructor
  · intro h
    obtain ⟨v, hv, rfl⟩ := h
    exact ⟨rfl, value?_eq_some_iff.1 hv⟩
  · intro h
    obtain ⟨hkey, hv⟩ := h
    exact ⟨e.2, value?_eq_some_iff.2 hv, Prod.ext hkey.symm rfl⟩

end TriggerAttribute

/-! ## What a trigger makes -/

namespace Trigger

variable {trigger : Trigger} {r : Registry} {pm : PackageManager} {step t k : String}
  {d d' : Document}

/-- A key has the value that the last of the attributes that go under it yields. -/
def Sets (params : Parameters) (trigger : Trigger) (k : String) (v : Value) : Prop :=
  ∃ before a after, trigger.attributes = before ++ a :: after ∧ a.target ≠ "" ∧ k = a.target ∧
    a.Yields params v ∧ ∀ later ∈ after, later.target = k → ∀ w, ¬ later.Yields params w

/-- A trigger is due if its module is registered and can run on the host and one of its attributes
yields a value. -/
def Due (r : Registry) (pm : PackageManager) (params : Parameters) (trigger : Trigger) : Prop :=
  (∃ s, r.get? trigger.module = some s ∧ s.runsWith pm = true) ∧
    ∃ a ∈ trigger.attributes, a.target ≠ "" ∧ ∃ v, a.Yields params v

/-- The document of a trigger: the triggered module in its first state, in the shared scope, without
edges, and with the trigger's attributes. -/
structure Makes (r : Registry) (params : Parameters) (trigger : Trigger) (d : Document) : Prop where
  schema : ∃ s, r.get? trigger.module = some s ∧ d.resourceType = s.resourceType ∧
    d.state = s.defaultState
  scope : d.scope = some .shared
  edges : d.edges = []
  attributes : ∀ k v, d.attributes.get? k = some v ↔ trigger.Sets params k v

/-- The tag of a trigger's document. -/
def tagIn (r : Registry) (step : String) (trigger : Trigger) : String :=
  tag trigger.module step ((r.get? trigger.module).elim "" Schema.defaultState)

/-- Of several attributes with one target the last that gives a value counts. -/
theorem get?_attributesFor_eq_some_iff :
    (trigger.attributesFor params).get? k = some v ↔ trigger.Sets params k v := by
  unfold attributesFor Sets
  rw [Table.get?_ofList_eq_some_iff_last, exists_filterMap_split_iff]
  refine exists_congr fun before => exists_congr fun a => exists_congr fun after =>
    and_congr_right' ?_
  rw [TriggerAttribute.entry?_eq_some_iff, and_assoc, and_assoc]
  refine and_congr_right fun htarget => and_congr_right fun hk => and_congr_right' ?_
  refine forall₂_congr fun later _ => ?_
  constructor
  · intro h hlater w hw
    exact h (k, w) (TriggerAttribute.entry?_eq_some_iff.2
      ⟨hlater.trans hk ▸ htarget, hlater.symm, hw⟩) rfl
  · intro h e he hkey
    obtain ⟨-, htarget, hyields⟩ := TriggerAttribute.entry?_eq_some_iff.1 he
    exact h (htarget.symm.trans hkey) _ hyields

/-- There is something to pass on if one attribute with a target gives a value. -/
theorem isEmpty_attributesFor_eq_false_iff : (trigger.attributesFor params).isEmpty = false ↔
    ∃ a ∈ trigger.attributes, a.target ≠ "" ∧ ∃ v, a.Yields params v := by
  unfold attributesFor
  rw [← Bool.not_eq_true, Table.isEmpty_ofList_iff, List.filterMap_eq_nil_iff]
  push Not
  refine exists_congr fun a => and_congr_right' ?_
  rw [Option.ne_none_iff_exists']
  constructor
  · intro h
    obtain ⟨e, he⟩ := h
    obtain ⟨htarget, -, hyields⟩ := TriggerAttribute.entry?_eq_some_iff.1 he
    exact ⟨htarget, e.2, hyields⟩
  · intro h
    obtain ⟨htarget, v, hyields⟩ := h
    exact ⟨(a.target, v), TriggerAttribute.entry?_eq_some_iff.2 ⟨htarget, rfl, hyields⟩⟩

/-- A trigger makes one document at most. -/
theorem Makes.eq (h : trigger.Makes r params d) (h' : trigger.Makes r params d') : d = d' := by
  obtain ⟨s, hs, htype, hstate⟩ := h.schema
  obtain ⟨s', hs', htype', hstate'⟩ := h'.schema
  obtain rfl : s = s' := Option.some.inj (hs.symm.trans hs')
  have hattributes : d.attributes = d'.attributes := by
    apply Table.ext_get?
    intro k
    ext v
    rw [h.attributes, h'.attributes]
  have hedges := h.edges
  have hedges' := h'.edges
  have hscope := h.scope.trans h'.scope.symm
  cases d
  cases d'
  simp only [Document.edges, List.append_eq_nil_iff] at *
  simp only [htype, htype', hstate, hstate', hattributes, hedges, hedges', hscope]

/-- Which triggers have one tag does not depend on the step. -/
theorem tagIn_eq_tagIn_iff {trigger' : Trigger} (step step' : String) :
    trigger.tagIn r step = trigger'.tagIn r step ↔
      trigger.tagIn r step' = trigger'.tagIn r step' := by
  unfold tagIn
  simp only [tag_eq_stepTag, stepTag_eq _ _ (_ ++ _), stepTag_empty_state, String.append_assoc,
    String.append_right_inj]

/-- What a trigger makes, and when. -/
theorem document?_eq_some_iff_makes : trigger.document? r pm step params = some (t, d) ↔
    trigger.Due r pm params ∧ t = trigger.tagIn r step ∧ trigger.Makes r params d := by
  have hmakes : ∀ s, r.get? trigger.module = some s → trigger.Makes r params
      { resourceType := s.resourceType, state := s.defaultState,
        attributes := trigger.attributesFor params, scope := some .shared } := fun s hs =>
    ⟨⟨s, hs, rfl, rfl⟩, rfl, rfl, fun k v => get?_attributesFor_eq_some_iff⟩
  rw [document?_eq_some_iff]
  constructor
  · intro h
    obtain ⟨s, hs, hruns, hsome, rfl, rfl⟩ := h
    refine ⟨⟨⟨s, hs, hruns⟩, isEmpty_attributesFor_eq_false_iff.1 hsome⟩, ?_, hmakes s hs⟩
    unfold tagIn
    rw [hs, Option.elim_some]
  · intro h
    obtain ⟨⟨⟨s, hs, hruns⟩, hyields⟩, rfl, hd⟩ := h
    refine ⟨s, hs, hruns, isEmpty_attributesFor_eq_false_iff.2 hyields, ?_, hd.eq (hmakes s hs)⟩
    unfold tagIn
    rw [hs, Option.elim_some]

/-- A trigger that is due makes a document, and its tag does not depend on the parameters. -/
theorem Due.exists_document? (h : trigger.Due r pm params) (step : String) :
    ∃ d, trigger.document? r pm step params = some (trigger.tagIn r step, d) := by
  obtain ⟨⟨s, hs, hruns⟩, hyields⟩ := h
  refine ⟨_, document?_eq_some_iff.2
    ⟨s, hs, hruns, isEmpty_attributesFor_eq_false_iff.2 hyields, ?_, rfl⟩⟩
  unfold tagIn
  rw [hs, Option.elim_some]

/-- A trigger makes a document exactly if it is due. -/
theorem isSome_document?_iff (step : String) :
    (trigger.document? r pm step params).isSome = true ↔ trigger.Due r pm params := by
  rw [Option.isSome_iff_exists]
  constructor
  · intro h
    obtain ⟨e, he⟩ := h
    exact (document?_eq_some_iff_makes.1 he).1
  · intro h
    obtain ⟨d, hd⟩ := h.exists_document? step
    exact ⟨_, hd⟩

instance : Decidable (trigger.Due r pm params) := decidable_of_iff _ (isSome_document?_iff "")

end Trigger

/-! ## The triggers of a module -/

namespace Schema

variable {s : Schema} {r : Registry} {pm : PackageManager} {step t : String} {d : Document}

/-- The triggers of a module that are due, in their order. -/
def dueTriggers (s : Schema) (r : Registry) (pm : PackageManager) (params : Parameters) :
    List Trigger :=
  s.triggers.filter (Trigger.Due r pm params)

/-- The tags of the documents that triggers make are those of the due triggers, in their order. -/
theorem map_fst_documents (s : Schema) (r : Registry) (pm : PackageManager) (step : String)
    (params : Parameters) : (s.triggers.filterMap (Trigger.document? r pm step params)).map (·.1) =
      (s.dueTriggers r pm params).map (Trigger.tagIn r step) := by
  unfold dueTriggers
  rw [← List.filterMap_eq_filter, List.map_filterMap, List.map_filterMap]
  refine List.filterMap_congr fun trigger _ => ?_
  by_cases h : trigger.Due r pm params
  · obtain ⟨d, hd⟩ := h.exists_document? step
    simp only [hd, Option.guard, h, decide_true, if_true, Option.map_some]
  · have hnone := h
    rw [← Trigger.isSome_document?_iff step, Option.not_isSome_iff_eq_none] at hnone
    simp only [hnone, Option.guard, h, decide_false, Bool.false_eq_true, if_false, Option.map_none]

/-- Under a tag stands the document of the last due trigger that has it. -/
theorem get?_triggerDocuments_eq_some_iff : (s.triggerDocuments r pm step params).get? t = some d ↔
    ∃ before trigger after, s.triggers = before ++ trigger :: after ∧ trigger.Due r pm params ∧
      t = trigger.tagIn r step ∧ trigger.Makes r params d ∧
      ∀ later ∈ after, later.Due r pm params → later.tagIn r step ≠ t := by
  unfold triggerDocuments
  rw [Table.get?_ofList_eq_some_iff_last, exists_filterMap_split_iff]
  refine exists_congr fun before => exists_congr fun trigger => exists_congr fun after =>
    and_congr_right' ?_
  rw [Trigger.document?_eq_some_iff_makes, and_assoc, and_assoc]
  refine and_congr_right' (and_congr_right' (and_congr_right' (forall₂_congr fun later _ => ?_)))
  constructor
  · intro h hlater
    obtain ⟨d, hd⟩ := hlater.exists_document? step
    exact h _ hd
  · intro h e he
    obtain ⟨hlater, htag, -⟩ := Trigger.document?_eq_some_iff_makes.1 he
    rw [htag]
    exact h hlater

/-- The number of trigger documents is that of the due triggers exactly if no two of them have one
tag. -/
theorem size_triggerDocuments_eq_iff :
    (s.triggerDocuments r pm step params).size = (s.dueTriggers r pm params).length ↔
      ((s.dueTriggers r pm params).map (Trigger.tagIn r step)).Nodup := by
  have hlength := congrArg List.length (map_fst_documents s r pm step params)
  rw [List.length_map, List.length_map] at hlength
  rw [← map_fst_documents, ← hlength]
  exact Table.size_ofList_eq_length_iff

/-- Triggers whose tags are distinct are all there. -/
theorem exists_get?_of_nodup (h : ((s.dueTriggers r pm params).map (Trigger.tagIn r step)).Nodup)
    {trigger : Trigger} (hdue : trigger ∈ s.dueTriggers r pm params) :
    ∃ d, (s.triggerDocuments r pm step params).get? (trigger.tagIn r step) = some d ∧
      trigger.Makes r params d := by
  obtain ⟨hmem, hdue⟩ := List.mem_filter.1 hdue
  obtain ⟨d, hd⟩ := (of_decide_eq_true hdue).exists_document? step
  obtain ⟨-, -, hmakes⟩ := Trigger.document?_eq_some_iff_makes.1 hd
  rw [← map_fst_documents] at h
  exact ⟨d, Table.get?_insertAll_of_mem (List.pairwise_map.1 h)
    (List.mem_filterMap.2 ⟨trigger, hmem, hd⟩), hmakes⟩

/-- Each tag has the document of the last due trigger with that tag, which is of the triggered
module's type and in its first state, in the shared scope, without edges, and has exactly what that
trigger's attributes yield. So every due trigger has its document and there are as many documents as
due triggers exactly if no two due triggers have one tag. -/
theorem triggers_lossless_iff (s : Schema) (r : Registry) (pm : PackageManager) (step : String)
    (params : Parameters) :
    (∀ t d, (s.triggerDocuments r pm step params).get? t = some d ↔
      ∃ before trigger after, s.triggers = before ++ trigger :: after ∧ trigger.Due r pm params ∧
        t = trigger.tagIn r step ∧ trigger.Makes r params d ∧
        ∀ later ∈ after, later.Due r pm params → later.tagIn r step ≠ t) ∧
    ((∀ trigger ∈ s.dueTriggers r pm params, ∃ t d,
        (s.triggerDocuments r pm step params).get? t = some d ∧ trigger.Makes r params d) ∧
      (s.triggerDocuments r pm step params).size = (s.dueTriggers r pm params).length ↔
      ((s.dueTriggers r pm params).map (Trigger.tagIn r step)).Nodup) := by
  refine ⟨fun t d => get?_triggerDocuments_eq_some_iff, ?_⟩
  rw [size_triggerDocuments_eq_iff]
  refine and_iff_right_of_imp fun hnodup trigger hdue => ?_
  exact ⟨_, exists_get?_of_nodup hnodup hdue⟩

/-- A module that runs a command. -/
def commandSchema : Schema :=
  { id := "command", resourceType := .cmd, attributes := .singleton "cmd" "name",
    states := ["run"] }

/-- The trigger of a command, which is a template. -/
def commandTrigger (template : String) : Trigger := ⟨"command", [⟨template, "name"⟩]⟩

/-- A module that checks a configuration and reloads it, each by a trigger of its own. -/
def siteSchema : Schema :=
  { id := "site", resourceType := .file, attributes := .singleton "name" "name",
    states := ["managed"],
    triggers := [commandTrigger "test $name", commandTrigger "reload $name"] }

/-- A registry of these two modules. -/
def siteRegistry : Registry := .ofList [commandSchema, siteSchema]

/-- What a step of the site is called with. -/
def siteParameters : Parameters := .singleton "name" (.str "web")

/-- The registry is sound and both triggers are due, but there is no document of the first one. -/
theorem siteSchema_loses_trigger :
    siteRegistry.check = .ok () ∧ siteRegistry.get? "site" = some siteSchema ∧
    siteSchema.dueTriggers siteRegistry .apt siteParameters = siteSchema.triggers ∧
    ∀ t d, (siteSchema.triggerDocuments siteRegistry .apt "1" siteParameters).get? t = some d →
      ¬ (commandTrigger "test $name").Makes siteRegistry siteParameters d := by
  have hcheck : siteRegistry.check = .ok () :=
    Registry.check_eq_ok_of_rank (fun _ => 0) (by decide +kernel) (by decide +kernel)
  let made (command : String) : Document :=
    { resourceType := .cmd, state := "run", attributes := .singleton "name" (.str command),
      scope := some .shared }
  have hmakes : ∀ template command,
      (commandTrigger template).document? siteRegistry .apt "1" siteParameters =
      some ("_1_command_require_in_run", made command) →
      (commandTrigger template).Makes siteRegistry siteParameters (made command) :=
    fun _ _ h => (Trigger.document?_eq_some_iff_makes.1 h).2.2
  have htest := hmakes "test $name" "test web" (by decide +kernel)
  have hreload := hmakes "reload $name" "reload web" (by decide +kernel)
  have hdue : (commandTrigger "reload $name").Due siteRegistry .apt siteParameters := by
    decide +kernel
  refine ⟨hcheck, by decide +kernel, by decide +kernel, fun t d hd hlost => ?_⟩
  obtain ⟨hlast, -⟩ := triggers_lossless_iff siteSchema siteRegistry .apt "1" siteParameters
  obtain ⟨before, trigger, after, hsplit, -, rfl, hmade, hafter⟩ := (hlast t d).1 hd
  match before, hsplit with
  | [], hsplit =>
    obtain ⟨rfl, rfl⟩ := List.cons.inj hsplit
    exact hafter _ (List.mem_singleton_self _) hdue rfl
  | [_], hsplit =>
    obtain ⟨-, hsplit⟩ := List.cons.inj hsplit
    obtain ⟨rfl, -⟩ := List.cons.inj hsplit
    exact absurd ((hlost.eq htest).symm.trans (hmade.eq hreload)) (by decide +kernel)
  | _ :: _ :: _, hsplit =>
    obtain ⟨-, hsplit⟩ := List.cons.inj hsplit
    obtain ⟨-, hsplit⟩ := List.cons.inj hsplit
    simp at hsplit

end Schema

/-! ## The triggers of a draft -/

namespace Draft

/-- What a draft's schema can lose are the documents of different modules whose tags coincide. -/
theorem size_triggerDocuments_ofParts_eq_iff {id : String} {resourceType : ResourceType}
    {parts : List Part} {s : Schema}
    (hs : s = (ofParts id resourceType parts).schema) {r : Registry} {pm : PackageManager}
    {step : String} {params : Parameters} :
    (s.triggerDocuments r pm step params).size = (s.dueTriggers r pm params).length ↔
      ∀ trigger ∈ s.dueTriggers r pm params, ∀ trigger' ∈ s.dueTriggers r pm params,
        trigger.module ≠ trigger'.module → trigger.tagIn r step ≠ trigger'.tagIn r step := by
  have hmodules : ((s.dueTriggers r pm params).map (·.module)).Nodup := by
    rw [hs]
    exact (nodup_triggers_ofParts id resourceType parts).sublist (List.filter_sublist.map _)
  rw [Schema.size_triggerDocuments_eq_iff, List.nodup_map_iff_inj_on hmodules.of_map]
  refine forall₂_congr fun trigger htrigger => forall₂_congr fun trigger' htrigger' => ?_
  constructor
  · intro h hne htags
    exact hne (congrArg Trigger.module (h htags))
  · intro h htags
    refine List.inj_on_of_nodup_map hmodules htrigger htrigger' ?_
    exact Classical.byContradiction fun hne => h hne htags

end Draft

end Provision
