import Provision.Conversion.Basic
import Provision.Proofs.Conversion.Own
import Provision.Proofs.Handler.Outcome
import Provision.Proofs.Registry.Tags

/-!
# Documents of the standard modules stay apart

When own documents, triggers and prerequisites go into one map, a document can be overwritten only
where two tags coincide. If none do, the tags of the map are those of the three parts
(`keys_assemble_perm`), and each part is still there. For the standard modules no tags do
(`nodup_tags`): an own document has the module's id in its tag, and a declared state; a trigger's
has another state; and a prerequisite's has the id of a module that is listed further in front
(`Compiled.exists_stepTag`, by induction on how the prerequisites are compiled).
-/

namespace Provision

namespace Converter

variable {s : Schema} {step t : String} {requires triggers : DocumentMap} {buckets : Buckets}
  {d : Document}

/-! ## Parts with different tags -/

/-- Where the three groups of tags are apart, the tags of the map are all of them. -/
theorem keys_assemble_perm (h : (ownTags s step buckets ++ triggers.keys ++ requires.keys).Nodup) :
    (assemble s step requires triggers buckets).keys.Perm
      (ownTags s step buckets ++ triggers.keys ++ requires.keys) := by
  rw [List.perm_ext_iff_of_nodup Table.nodup_keys h]
  intro t
  rw [Table.mem_keys, contains_assemble, List.mem_append, List.mem_append, Table.mem_keys,
    Table.mem_keys, or_assoc]

/-- So the map has as many documents as the groups together. -/
theorem size_assemble (h : (ownTags s step buckets ++ triggers.keys ++ requires.keys).Nodup) :
    (assemble s step requires triggers buckets).size = buckets.size + triggers.size +
      requires.size := by
  have hlength := (keys_assemble_perm h).length_eq
  have hown : (ownTags s step buckets).length = buckets.size := List.length_map _
  simpa only [List.length_append, Table.length_keys, hown] using hlength

/-- The document of a trigger is not overwritten. -/
theorem get?_assemble_trigger (h : (ownTags s step buckets ++ triggers.keys ++ requires.keys).Nodup)
    (hd : triggers.get? t = some d) :
    (assemble s step requires triggers buckets).get? t = some d := by
  obtain ⟨hfront, -, -⟩ := List.nodup_append.1 h
  obtain ⟨-, -, hne⟩ := List.nodup_append.1 hfront
  have hkey : t ∈ triggers.keys := Table.mem_keys.2 (Table.contains_of_get? hd)
  rw [get?_assemble_of_not_mem fun hown => hne t hown t hkey rfl, Table.get?_union, hd,
    Option.some_or]

/-- The document of a prerequisite is not overwritten. -/
theorem get?_assemble_required
    (h : (ownTags s step buckets ++ triggers.keys ++ requires.keys).Nodup)
    (hd : requires.get? t = some d) :
    (assemble s step requires triggers buckets).get? t = some d := by
  obtain ⟨-, -, hne⟩ := List.nodup_append.1 h
  have hkey : t ∈ requires.keys := Table.mem_keys.2 (Table.contains_of_get? hd)
  have htrigger : triggers.get? t = none := by
    rw [Option.eq_none_iff_forall_ne_some]
    intro d' hd'
    have hkey' : t ∈ triggers.keys := Table.mem_keys.2 (Table.contains_of_get? hd')
    exact hne t (List.mem_append_right _ hkey') t hkey rfl
  rw [get?_assemble_of_not_mem fun hown => hne t (List.mem_append_left _ hown) t hkey rfl,
    Table.get?_union, htrigger, Option.none_or, hd]

/-! ## The standard modules -/

variable {pm : PackageManager} {params : Parameters} {levels : Nat} {m : DocumentMap}

/-- Own documents have declared states. -/
theorem exists_state_of_mem_ownTags (hs : s ∈ standardSchemas) {attributes : Attributes}
    (hbuild : standard.handlers.build s attributes = .ok buckets)
    (ht : t ∈ ownTags s step buckets) :
    ∃ state ∈ s.states, t = stepTag s.id step state := by
  have hdeclared : ∀ s ∈ standardSchemas,
      ∀ state ∈ s.defaultState :: s.states ++ HandlerTable.ownStates s.id, state ∈ s.states := by
    decide +kernel
  have hgives : s.Gives _ (standard.handlers.build s attributes) :=
    HandlerTable.build_standard s attributes
  rw [hbuild] at hgives
  obtain ⟨⟨state, own⟩, hmem, rfl⟩ := List.mem_map.1 ht
  have hstate := hgives.2 state (Table.contains_of_get? (Table.get?_eq_some_iff.2 hmem))
  exact ⟨state, hdeclared s hs state hstate, rfl⟩

/-- The documents of a module without triggers come from declared states of modules up to its
place. -/
theorem Compiled.exists_stepTag (h : standard.Compiled pm levels step s params m)
    (hs : s ∈ standardSchemas) (htriggers : s.triggers = []) (ht : m.contains t = true) :
    ∃ s' ∈ standardSchemas, Registry.place s'.id ≤ Registry.place s.id ∧
      ∃ step', ∃ state ∈ s'.states, t = stepTag s'.id step' state := by
  induction h generalizing t with
  | @intro levels step s params attributes buckets docs renamed built nested ih =>
    have hnothing : s.triggerDocuments standard.registry pm step params = ∅ := by
      unfold Schema.triggerDocuments
      rw [htriggers]
      rfl
    rcases contains_assemble.1 ht with hown | htrigger | hrequired
    · obtain ⟨state, hstate, htag⟩ := exists_state_of_mem_ownTags hs built hown
      exact ⟨s, hs, le_rfl, step, state, hstate, htag⟩
    · rw [hnothing] at htrigger
      cases htrigger
    · obtain ⟨m', hm', ht'⟩ := DocumentMap.contains_merge.1 hrequired
      obtain ⟨q, hq, rfl⟩ := List.mem_map.1 hm'
      obtain ⟨hp, hget, -⟩ := mem_applicable.1 hq
      obtain ⟨hmem, hplace, hnone⟩ := Registry.place_lt_of_requires hs hp hget
      obtain ⟨s', hs', hle, hrest⟩ := ih q hq hmem hnone ht'
      exact ⟨s', hs', hle.trans hplace.le, hrest⟩

/-- The tag of a trigger of a standard module is that of a standard module in the state of
triggers. -/
theorem exists_stepTag_of_trigger (hs : s ∈ standardSchemas)
    (ht : (s.triggerDocuments standard.registry pm step params).contains t = true) :
    ∃ s' ∈ standardSchemas, t = stepTag s'.id step triggerState := by
  have hall : ∀ s ∈ standardSchemas, ∀ trigger ∈ s.triggers, ∀ s' ∈ standardSchemas,
      s'.id = trigger.module →
      s'.defaultState = "run" := by
    decide +kernel
  obtain ⟨d, hd⟩ := Table.contains_iff.1 ht
  obtain ⟨trigger, htrigger, hdocument⟩ := Schema.exists_trigger_of_get? hd
  obtain ⟨s', hget, -, -, rfl, -⟩ := Trigger.document?_eq_some_iff.1 hdocument
  obtain ⟨hmem, hid⟩ := Registry.mem_of_get?_ofList hget
  refine ⟨s', hmem, ?_⟩
  rw [hall s hs trigger htrigger s' hmem hid, Trigger.tag_eq (by decide), hid]
  rfl

/-- Own documents, triggers and prerequisites all have different tags. -/
theorem nodup_tags (hs : s ∈ standardSchemas) {attributes : Attributes}
    (hbuild : standard.handlers.build s attributes = .ok buckets)
    {docs : Prerequisite × Schema → DocumentMap}
    (hnested : ∀ q ∈ standard.applicable pm s,
      standard.Compiled pm levels requireStep q.2 q.1.parameters (docs q)) :
    (ownTags s step buckets ++ (s.triggerDocuments standard.registry pm step params).keys ++
      (standard.required pm s docs).keys).Nodup := by
  have hdeclared : ∀ {s : Schema} {state}, state ∈ s.states → state ∈ s.tagStates :=
    List.mem_cons_of_mem _
  have htriggerState : ∀ s : Schema, triggerState ∈ s.tagStates := fun _ => List.mem_cons_self ..
  have hown : (ownTags s step buckets).Nodup :=
    List.pairwise_map.2 (Table.pairwise_ne.imp fun hne htag => hne (stepTag_injective htag))
  have hrequired : ∀ t ∈ (standard.required pm s docs).keys, ∃ s' ∈ standardSchemas,
      Registry.place s'.id < Registry.place s.id ∧
      ∃ step', ∃ state ∈ s'.states, t = stepTag s'.id step' state := by
    intro t ht
    obtain ⟨m, hm, ht⟩ := DocumentMap.contains_merge.1 (Table.mem_keys.1 ht)
    obtain ⟨q, hq, rfl⟩ := List.mem_map.1 hm
    obtain ⟨hp, hget, -⟩ := mem_applicable.1 hq
    obtain ⟨hmem, hplace, hnone⟩ := Registry.place_lt_of_requires hs hp hget
    obtain ⟨s', hs', hle, hrest⟩ := (hnested q hq).exists_stepTag hmem hnone ht
    exact ⟨s', hs', hle.trans_lt hplace, hrest⟩
  refine List.nodup_append.2 ⟨List.nodup_append.2 ⟨hown, Table.nodup_keys, ?_⟩,
    Table.nodup_keys, ?_⟩
  · -- a trigger's state is declared by no module
    intro t ht t' ht' heq
    obtain ⟨state, hstate, rfl⟩ := exists_state_of_mem_ownTags hs hbuild ht
    obtain ⟨s', hs', rfl⟩ := exists_stepTag_of_trigger hs (Table.mem_keys.1 ht')
    obtain ⟨-, rfl, rfl⟩ := eq_of_stepTag_eq hs hs' (hdeclared hstate) (htriggerState s') heq
    exact triggerState_not_mem hs hstate
  · intro t ht t' ht' heq
    obtain ⟨s', hs', hplace, step', state', hstate', rfl⟩ := hrequired t' ht'
    rcases List.mem_append.1 ht with ht | ht
    · -- a prerequisite stands at another place than the module itself
      obtain ⟨state, hstate, rfl⟩ := exists_state_of_mem_ownTags hs hbuild ht
      obtain ⟨-, rfl, -⟩ := eq_of_stepTag_eq hs hs' (hdeclared hstate) (hdeclared hstate') heq
      exact lt_irrefl _ hplace
    · obtain ⟨s'', hs'', rfl⟩ := exists_stepTag_of_trigger hs (Table.mem_keys.1 ht)
      obtain ⟨-, rfl, rfl⟩ := eq_of_stepTag_eq hs'' hs' (htriggerState s'') (hdeclared hstate') heq
      exact triggerState_not_mem hs'' hstate'

/-- Of what a module requires, at most one module can run with a package manager. -/
theorem length_applicable_le (hs : s ∈ standardSchemas) :
    (standard.applicable pm s).length ≤ 1 := by
  have hall : ∀ pm ∈ (Named.all : List PackageManager), ∀ s ∈ standardSchemas,
      (standard.applicable pm s).length ≤ 1 := by
    decide +kernel
  exact hall pm (Named.mem_all pm) s hs

/-- What a standard module requires is what its one applicable prerequisite makes. -/
theorem required_eq_of_mem (hs : s ∈ standardSchemas) {docs : Prerequisite × Schema → DocumentMap}
    {q : Prerequisite × Schema} (hq : q ∈ standard.applicable pm s) :
    standard.required pm s docs = docs q := by
  have hone : standard.applicable pm s = [q] := by
    obtain ⟨q', hq'⟩ := List.length_eq_one_iff.1
      (le_antisymm (length_applicable_le hs) (List.length_pos_of_mem hq))
    rw [hq', List.mem_singleton] at hq
    rw [hq', hq]
  unfold required
  rw [hone]
  show Table.union ∅ (docs q) = docs q
  apply Table.ext_get?
  intro t
  rw [Table.get?_union]
  exact Option.or_none

/-- No two triggers of a module have one tag, as there is one at most. -/
theorem size_triggerDocuments (hs : s ∈ standardSchemas) :
    (s.triggerDocuments standard.registry pm step params).size =
      (s.triggers.filterMap (Trigger.document? standard.registry pm step params)).length := by
  have hall : ∀ s ∈ standardSchemas, s.triggers.length ≤ 1 := by decide +kernel
  have hlength := (List.length_filterMap_le (Trigger.document? standard.registry pm step params)
    s.triggers).trans (hall s hs)
  unfold Schema.triggerDocuments
  generalize s.triggers.filterMap (Trigger.document? standard.registry pm step params) =
    l at hlength ⊢
  cases l with
  | nil => rfl
  | cons e l =>
    cases l with
    | nil => rfl
    | cons e' l => exact absurd hlength (by simp)

/-- The tags of standard modules are different unless step, module and state are the same, and none
is that of a trigger. So in a conversion that succeeds own documents, triggers and prerequisites
have different tags, and the last map has all of them. -/
theorem standard_tags_apart :
    (∀ s ∈ standardSchemas, ∀ s' ∈ standardSchemas, ∀ state ∈ s.states, ∀ state' ∈ s'.states,
      ∀ step step', stepTag s.id step state = stepTag s'.id step' state' →
        step = step' ∧ s.id = s'.id ∧ state = state') ∧
    (∀ s ∈ standardSchemas, ∀ state ∈ s.states, ∀ step step',
      stepTag s.id step state ≠ Trigger.tag "linux.cmd" step' "run") ∧
    ∀ step module params platform maps, standard.convert step module params platform = .ok maps →
      ∃ s p attributes buckets triggers requires main,
        standard.registry.get? module = some s ∧ Named.ofName? platform = some p ∧
        s.rename params = .ok attributes ∧ standard.handlers.build s attributes = .ok buckets ∧
        triggers = s.triggerDocuments standard.registry p.packageManager step params ∧
        (standard.requirements s).run (Context.start p) = (.ok requires, Context.start p) ∧
        maps.getLast? = some main ∧
        (buckets.keys.map (stepTag module step) ++ triggers.keys ++ requires.keys).Nodup ∧
        main.size = buckets.size + triggers.size + requires.size ∧
        (∀ state own, buckets.get? state = some own →
          main.get? (stepTag module step state) = some
            (ownDocument s requires triggers state own).reduced) ∧
        (∀ t d, triggers.get? t = some d → main.get? t = some d.reduced) ∧
        (∀ t d, requires.get? t = some d → main.get? t = some d.reduced) ∧
        triggers.size =
          (s.triggers.filterMap
            (Trigger.document? standard.registry p.packageManager step params)).length ∧
        ∀ q ∈ standard.applicable p.packageManager s,
          ((standard.compile requireStep q.2 q.1.parameters).run (Context.start p).deeper).1 =
            .ok requires := by
  have hdeclared : ∀ {s : Schema} {state}, state ∈ s.states → state ∈ s.tagStates :=
    List.mem_cons_of_mem _
  refine ⟨?tags, ?trigger, ?convert⟩
  case tags =>
    intro s hs s' hs' state hstate state' hstate' step step' h
    obtain ⟨hstep, rfl, heq⟩ := eq_of_stepTag_eq hs hs' (hdeclared hstate) (hdeclared hstate') h
    exact ⟨hstep, rfl, heq⟩
  case trigger =>
    intro s hs state hstate step step' h
    obtain ⟨s', hs', hid⟩ : ∃ s' ∈ standardSchemas, s'.id = "linux.cmd" := by decide +kernel
    rw [Trigger.tag_eq (by decide), ← hid] at h
    obtain ⟨-, rfl, rfl⟩ := eq_of_stepTag_eq hs hs' (hdeclared hstate) (List.mem_cons_self ..) h
    exact triggerState_not_mem hs hstate
  case convert =>
    intro step module params platform maps h
    obtain ⟨m, hm, hexpand⟩ := convert_eq_ok_iff.1 h
    obtain ⟨s, p, hcheck, hcompiled⟩ := documents_eq_ok_iff.1 hm
    obtain ⟨-, -, hp, hget, -⟩ := check_eq_ok_iff.1 hcheck
    obtain ⟨hs, hid⟩ := Registry.mem_of_get?_ofList hget
    cases hcompiled with
    | @intro _ _ _ _ attributes buckets docs renamed built nested =>
      have hnodup : (ownTags s step buckets ++
          (s.triggerDocuments standard.registry p.packageManager step params).keys ++
          (standard.required p.packageManager s docs).keys).Nodup := nodup_tags hs built nested
      have hkeys : buckets.keys.map (stepTag module step) = ownTags s step buckets := by
        rw [← hid]
        exact List.map_map ..
      have hmain := DocumentMap.getLast?_expand hexpand
      rw [DocumentMap.reduce_eq_map] at hmain
      refine ⟨s, p, attributes, buckets, _, standard.required p.packageManager s docs, _, hget, hp,
        renamed, built, rfl, requirements_run_eq_ok_iff.2 ⟨rfl, docs, nested, rfl⟩, hmain, ?_, ?_,
        ?_, ?_, ?_, size_triggerDocuments hs, ?_⟩
      · rw [hkeys]
        exact hnodup
      · rw [← size_assemble hnodup]
        exact List.length_map _
      · intro state own hown
        rw [Table.get?_map, ← hid, get?_assemble_stepTag hown]
        rfl
      · intro t d hd
        rw [Table.get?_map, get?_assemble_trigger hnodup hd]
        rfl
      · intro t d hd
        rw [Table.get?_map, get?_assemble_required hnodup hd]
        rfl
      · intro q hq
        have hrun : (standard.compile requireStep q.2 q.1.parameters).run (Context.start p).deeper
            = (.ok (docs q), (Context.start p).deeper.advance .tagging) :=
          (compile_run_eq_ok_iff fun hd => absurd hd (Nat.succ_ne_zero _)).2 ⟨rfl, nested q hq⟩
        rw [hrun, required_eq_of_mem hs hq]

/-- A virtual environment in a step that has the name of the step of prerequisites: its own
document, that of the package it requires, and that of the package which that one requires. -/
theorem virtualenv_documents_apart :
    stepTag "linux.file" "1" "managed" ≠ stepTag "linux.apt.repo" "1" "managed" ∧
    stepTag "linux.cmd" "1" "run" ≠ Trigger.tag "linux.cmd" "1" "run" ∧
    ∃ maps main, standard.convert "require" "common.virtualenv"
      (.singleton "path" (.str "env")) "ubuntu"
        = .ok maps ∧ maps.getLast? = some main ∧ main.size = 3 ∧
      ∃ (buckets : Buckets) (triggers requires : DocumentMap),
        (buckets.keys.map (stepTag "common.virtualenv" "require") ++ triggers.keys ++
          requires.keys).Nodup ∧
        buckets.size + triggers.size + requires.size = 3 := by
  obtain ⟨htags, htrigger, hconvert⟩ := standard_tags_apart
  obtain ⟨file, hfile, hfileId, hmanaged⟩ :
      ∃ s ∈ standardSchemas, s.id = "linux.file" ∧ "managed" ∈ s.states := by decide +kernel
  obtain ⟨repo, hrepo, hrepoId, hmanaged'⟩ :
      ∃ s ∈ standardSchemas, s.id = "linux.apt.repo" ∧ "managed" ∈ s.states := by decide +kernel
  obtain ⟨cmd, hcmd, hcmdId, hrun⟩ :
      ∃ s ∈ standardSchemas, s.id = "linux.cmd" ∧ "run" ∈ s.states := by decide +kernel
  refine ⟨fun htag => ?_, ?_, ?_⟩
  · rw [← hfileId, ← hrepoId] at htag
    obtain ⟨-, hid, -⟩ := htags file hfile repo hrepo _ hmanaged _ hmanaged' _ _ htag
    rw [hfileId, hrepoId] at hid
    exact absurd hid (by decide)
  · have hne := htrigger cmd hcmd "run" hrun "1" "1"
    rwa [hcmdId] at hne
  · have hsize : (((standard.convert "require" "common.virtualenv" (.singleton "path" (.str "env"))
        "ubuntu").toOption.bind List.getLast?).map Table.size) = some 3 := by
      decide +kernel
    cases h : standard.convert "require" "common.virtualenv" (.singleton "path" (.str "env"))
      "ubuntu" with
    | error e =>
      rw [h] at hsize
      cases hsize
    | ok maps =>
      obtain ⟨s, p, attributes, buckets, triggers, requires, main, -, -, -, -, -, -, hlast, hnodup,
        hsum, -⟩ :=
        hconvert _ _ _ _ _ h
      have hmain : main.size = 3 := by
        rw [h] at hsize
        simpa [Except.toOption, hlast] using hsize
      exact ⟨maps, main, rfl, hlast, hmain, buckets, triggers, requires, hnodup,
        hsum.symm.trans hmain⟩

end Converter

end Provision
