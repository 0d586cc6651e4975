import Provision.Proofs.Conversion.Apart
import Provision.Proofs.Expansion.Relabelled

/-!
# The step is a label

A step's name goes into the tags of its own documents, of its triggers and of the packages that are
pinned in them, and prerequisites have a step of their own. Maps are ordered by tag, so the name
decides where these documents stand between those of the prerequisites; what is the same for all
names is the order among themselves, since the name stands at the beginning of all their tags
(`before_withStep`).

`Schema.withStep` puts another step into such tags and leaves all others as they are. If no tag of a
prerequisite looks like one of the step, the assembled maps of two steps are the same under it
(`assemble_relabelled`). If moreover no prerequisite lists a pin, then so are the maps of the
expansion (`expand_assemble_relabelled`). The standard modules satisfy both whatever the steps are
(`required_apart`), so a step that is converted under two names fails with one error or gives the
same documents (`standard_step_label`).
-/

namespace Provision

/-! ## The tags of a step -/

namespace Schema

/-- The modules that have documents under the name of the step: the module itself and those it
triggers. -/
def ownModules (s : Schema) : List String := s.id :: s.triggers.map (·.module)

/-- A tag begins with a step and one of its modules. -/
def Marks (s : Schema) (step tag : String) : Prop :=
  ∃ m ∈ s.ownModules, ∃ rest, tag = stepPrefix step ++ (moduleTag m ++ rest)

/-- A tag with another step in it, if it begins with a step and one of its modules. -/
def withStep (s : Schema) (step step' tag : String) : String :=
  if s.ownModules.any fun m => (stepPrefix step ++ moduleTag m).toList.isPrefixOf tag.toList then
    stepPrefix step' ++ String.ofList (tag.toList.drop (stepPrefix step).toList.length)
  else tag

/-- Two tags of one document of a module under two steps: of an own document, of a trigger's
document, or of a package that is pinned in a document. -/
inductive SameTag (s : Schema) (step step' : String) : String → String → Prop
  | own (state : String) : SameTag s step step' (stepTag s.id step state) (stepTag s.id step' state)
  | trigger {trigger : Trigger} (h : trigger ∈ s.triggers) (state : String) :
      SameTag s step step' (Trigger.tag trigger.module step state)
        (Trigger.tag trigger.module step' state)
  | pin {tag tag' : String} (h : SameTag s step step' tag tag') (entry : String) :
      SameTag s step step' (pinTag tag entry) (pinTag tag' entry)

variable {s : Schema} {step step' m rest state tag tag' t u : String}

/-- Whether a step marks a tag can be tried out on the modules it makes documents of. -/
theorem marks_iff_any : s.Marks step tag ↔
    s.ownModules.any (fun m => (stepPrefix step ++ moduleTag m).toList.isPrefixOf tag.toList) =
      true := by
  simp only [List.any_eq_true, List.isPrefixOf_iff_prefix]
  refine exists_congr fun m => and_congr_right fun _ => ⟨?_, ?_⟩
  · rintro ⟨rest, rfl⟩
    rw [← String.append_assoc, String.toList_append (t := rest)]
    exact List.prefix_append _ _
  · rintro ⟨rest, hrest⟩
    refine ⟨String.ofList rest, String.toList_injective ?_⟩
    rw [← String.append_assoc, String.toList_append (t := String.ofList rest),
      String.toList_ofList, hrest]

/-- Tags that the step does not mark stay. -/
theorem withStep_of_not_marks (h : ¬ s.Marks step t) : s.withStep step step' t = t :=
  if_neg fun hany => h (marks_iff_any.2 hany)

/-- Another step takes the place of the step. -/
theorem withStep_append (hm : m ∈ s.ownModules) :
    s.withStep step step' (stepPrefix step ++ (moduleTag m ++ rest)) =
      stepPrefix step' ++ (moduleTag m ++ rest) := by
  unfold withStep
  rw [if_pos (marks_iff_any.1 ⟨m, hm, rest, rfl⟩), String.toList_append (s := stepPrefix step),
    List.drop_left, String.ofList_toList]

/-- Two tags that differ in their step have everything behind the step in common. -/
theorem SameTag.exists_rest (h : s.SameTag step step' tag tag') : ∃ m ∈ s.ownModules, ∃ rest,
    tag = stepPrefix step ++ (moduleTag m ++ rest) ∧
      tag' = stepPrefix step' ++ (moduleTag m ++ rest) := by
  have hstep : ∀ m step state,
      stepTag m step state = stepPrefix step ++ (moduleTag m ++ stateSuffix state) := by
    intro m step state
    rw [stepTag_eq, stepTag_empty_state, String.append_assoc]
  induction h with
  | own state => exact ⟨s.id, List.mem_cons_self .., _, hstep _ _ _, hstep _ _ _⟩
  | @trigger trigger h state =>
    refine ⟨trigger.module, List.mem_cons_of_mem _ (List.mem_map_of_mem h),
      stateSuffix ("require_in" ++ stateSuffix state), ?_, ?_⟩ <;>
        rw [Trigger.tag_eq_stepTag, hstep]
  | pin h entry ih =>
    obtain ⟨m, hm, rest, rfl, rfl⟩ := ih
    refine ⟨m, hm, rest ++ ("_" ++ entry), ?_, ?_⟩ <;> simp only [pinTag, String.append_assoc]

theorem SameTag.marks (h : s.SameTag step step' tag tag') : s.Marks step tag := by
  obtain ⟨m, hm, rest, htag, -⟩ := h.exists_rest
  exact ⟨m, hm, rest, htag⟩

theorem marks_stepTag (s : Schema) (step state : String) : s.Marks step (stepTag s.id step state) :=
  SameTag.marks (.own state : s.SameTag step step _ _)

theorem marks_triggerTag {trigger : Trigger} (h : trigger ∈ s.triggers) (step state : String) :
    s.Marks step (Trigger.tag trigger.module step state) :=
  SameTag.marks (.trigger h state : s.SameTag step step _ _)

/-- Between two tags of one document nothing but the step changes. -/
theorem SameTag.withStep_eq (h : s.SameTag step step' tag tag') :
    s.withStep step step' tag = tag' := by
  obtain ⟨m, hm, rest, rfl, rfl⟩ := h.exists_rest
  exact withStep_append hm

/-- After the step is exchanged the other one marks the tag. -/
theorem marks_withStep (h : s.Marks step t) : s.Marks step' (s.withStep step step' t) := by
  obtain ⟨m, hm, rest, rfl⟩ := h
  exact ⟨m, hm, rest, withStep_append hm⟩

/-- The tags of a step keep their order among themselves. -/
theorem before_withStep (ht : s.Marks step t) (hu : s.Marks step u) (h : Text.Before t u) :
    Text.Before (s.withStep step step' t) (s.withStep step step' u) := by
  obtain ⟨m, hm, rest, rfl⟩ := ht
  obtain ⟨m', hm', rest', rfl⟩ := hu
  rw [withStep_append hm, withStep_append hm']
  exact Text.before_append_iff.2 (Text.before_append_iff.1 h)

/-- No two tags become one if they do not look like those of the other step. -/
theorem withStep_injOn (s : Schema) (step step' : String) :
    {t | s.Marks step t ∨ ¬ s.Marks step' t}.InjOn (s.withStep step step') := by
  have happart : ∀ {t u}, s.Marks step t → (s.Marks step u ∨ ¬ s.Marks step' u) →
      s.withStep step step' t = s.withStep step step' u → s.Marks step u := by
    intro t u ht hu heq
    by_contra hmarks
    rw [withStep_of_not_marks hmarks] at heq
    exact (hu.resolve_left hmarks) (heq ▸ marks_withStep ht)
  intro t ht u hu heq
  by_cases hmarks : s.Marks step t
  · obtain ⟨m', hm', rest', rfl⟩ := happart hmarks hu heq
    obtain ⟨m, hm, rest, rfl⟩ := hmarks
    rw [withStep_append hm, withStep_append hm', String.append_right_inj] at heq
    rw [heq]
  · have hmarks' : ¬ s.Marks step u := fun h => hmarks (happart h ht heq.symm)
    rw [withStep_of_not_marks hmarks, withStep_of_not_marks hmarks'] at heq
    exact heq

end Schema

/-! ## Maps of two steps -/

namespace Converter

variable {c : Converter} {s : Schema} {pm : PackageManager} {step step' t : String}
  {params : Parameters} {requires : DocumentMap} {buckets : Buckets} {d : Document}

/-- The tags of the prerequisites do not look like those of a step. -/
def ApartFrom (s : Schema) (step : String) (requires : DocumentMap) : Prop :=
  ∀ t, requires.contains t = true → ¬ s.Marks step t

/-- A trigger makes the same document in another step, under the tag with that step. -/
theorem document?_withStep {trigger : Trigger} (h : trigger ∈ s.triggers) :
    trigger.document? c.registry pm step' params =
      (trigger.document? c.registry pm step params).map
        (DocumentMap.relabelEntry (s.withStep step step')) := by
  have hsame : ∀ state, s.SameTag step step' (Trigger.tag trigger.module step state) _ :=
    fun state => .trigger h state
  ext ⟨t, d⟩
  rw [Option.map_eq_some_iff]
  constructor
  · intro he
    obtain ⟨s', hs', hruns, hempty, rfl, rfl⟩ := Trigger.document?_eq_some_iff.1 he
    exact ⟨_, Trigger.document?_eq_some_iff.2 ⟨s', hs', hruns, hempty, rfl, rfl⟩,
      Prod.ext (hsame s'.defaultState).withStep_eq rfl⟩
  · rintro ⟨⟨u, d'⟩, he, heq⟩
    cases heq
    obtain ⟨s', hs', hruns, hempty, rfl, rfl⟩ := Trigger.document?_eq_some_iff.1 he
    exact Trigger.document?_eq_some_iff.2
      ⟨s', hs', hruns, hempty, (hsame s'.defaultState).withStep_eq, rfl⟩

/-- The tags of triggers tell their step. -/
theorem sameTag_of_trigger (step' : String)
    (h : (s.triggerDocuments c.registry pm step params).contains t = true) :
    ∃ t', s.SameTag step step' t t' := by
  obtain ⟨d, hd⟩ := Table.contains_iff.1 h
  obtain ⟨trigger, htrigger, hdocument⟩ := Schema.exists_trigger_of_get? hd
  obtain ⟨s', -, -, -, rfl, -⟩ := Trigger.document?_eq_some_iff.1 hdocument
  exact ⟨_, .trigger htrigger s'.defaultState⟩

theorem marks_of_trigger (h : (s.triggerDocuments c.registry pm step params).contains t = true) :
    s.Marks step t := by
  obtain ⟨t', hsame⟩ := sameTag_of_trigger step h
  exact hsame.marks

/-- The triggers of two steps have the same documents in the same order. -/
theorem triggerDocuments_entries : (s.triggerDocuments c.registry pm step' params).entries =
    (s.triggerDocuments c.registry pm step params).entries.map
      (DocumentMap.relabelEntry (s.withStep step step')) := by
  have hlist : s.triggers.filterMap (Trigger.document? c.registry pm step' params) =
      (s.triggers.filterMap (Trigger.document? c.registry pm step params)).map
        (DocumentMap.relabelEntry (s.withStep step step')) := by
    rw [List.map_filterMap]
    exact List.filterMap_congr fun trigger h => document?_withStep h
  have hmarks : ∀ e ∈ s.triggers.filterMap (Trigger.document? c.registry pm step params),
      s.Marks step e.1 := by
    intro e he
    obtain ⟨trigger, htrigger, hdocument⟩ := List.mem_filterMap.1 he
    obtain ⟨s', -, -, -, htag, -⟩ := Trigger.document?_eq_some_iff.1 hdocument
    rw [htag]
    exact Schema.marks_triggerTag htrigger step s'.defaultState
  have hrelabelled : (s.triggerDocuments c.registry pm step params).Relabelled
      (s.withStep step step')
      (s.triggerDocuments c.registry pm step' params) := by
    have hall := DocumentMap.relabelled_empty.insertAll (s.withStep_injOn step step')
      (fun t ht => by cases ht) (fun e he => .inl (hmarks e he))
    rw [← hlist] at hall
    exact hall
  exact hrelabelled.entries_eq fun t u ht hu =>
    Schema.before_withStep (marks_of_trigger ht) (marks_of_trigger hu)

theorem marks_of_mem_ownTags (h : t ∈ ownTags s step buckets) : s.Marks step t := by
  obtain ⟨bucket, -, rfl⟩ := List.mem_map.1 h
  exact s.marks_stepTag step bucket.1

/-- What is assembled for two steps is the same but for the step in the tags, if prerequisites have
other tags. -/
theorem assemble_relabelled (hapart : ApartFrom s step requires)
    (hapart' : ApartFrom s step' requires) (hclosed : requires.Closed) :
    (assemble s step requires (s.triggerDocuments c.registry pm step params) buckets).Relabelled
      (s.withStep step step')
      (assemble s step' requires (s.triggerDocuments c.registry pm step' params) buckets) := by
  have hfixed : ∀ t, requires.contains t = true → s.withStep step step' t = t := fun t ht =>
    Schema.withStep_of_not_marks (hapart t ht)
  have hentries : requires.entries.map (DocumentMap.relabelEntry (s.withStep step step')) =
      requires.entries :=
    DocumentMap.map_relabelEntry_eq_self hfixed fun t d hd e he =>
      hfixed e.tag (DocumentMap.closed_iff.1 hclosed t d hd e he)
  have htriggers : (s.triggerDocuments c.registry pm step' params).entries =
      (s.triggerDocuments c.registry pm step params).entries.map
        (DocumentMap.relabelEntry (s.withStep step step')) :=
    triggerDocuments_entries
  have hinj := s.withStep_injOn step step'
  -- triggers over prerequisites, and own documents over both
  have hunion : DocumentMap.Relabelled (s.withStep step step')
      (requires.union (s.triggerDocuments c.registry pm step params))
      (requires.union (s.triggerDocuments c.registry pm step' params)) := by
    unfold Table.union
    rw [htriggers]
    refine (DocumentMap.relabelled_self hentries).insertAll hinj (fun t ht => .inr (hapart' t ht))
      fun e he => ?_
    exact .inl (marks_of_trigger (Table.contains_of_get? (Table.get?_eq_some_iff.2 he)))
  have hown : ∀ state attributes,
      ownDocument s requires (s.triggerDocuments c.registry pm step' params) state attributes =
        (ownDocument s requires (s.triggerDocuments c.registry pm step params) state
          attributes).relabel
          (s.withStep step step') := by
    intro state attributes
    unfold ownDocument Document.relabel
    rw [← DocumentMap.edges_eq_of_entries_eq hentries.symm,
      ← DocumentMap.edges_eq_of_entries_eq htriggers]
    rfl
  have hlist : (buckets.entries.map fun e =>
      (stepTag s.id step' e.1, ownDocument s requires
        (s.triggerDocuments c.registry pm step' params) e.1 e.2)) =
      (buckets.entries.map fun e =>
        (stepTag s.id step e.1, ownDocument s requires
          (s.triggerDocuments c.registry pm step params) e.1 e.2)).map
          (DocumentMap.relabelEntry (s.withStep step step')) := by
    rw [List.map_map]
    refine List.map_congr_left fun e _ => Prod.ext ?_ (hown e.1 e.2)
    exact (Schema.SameTag.own e.1).withStep_eq.symm
  unfold assemble
  rw [hlist]
  refine hunion.insertAll hinj (fun t ht => ?_) fun e he => ?_
  · rcases Table.contains_union.1 ht with ht | ht
    · exact .inl (marks_of_trigger ht)
    · exact .inr (hapart' t ht)
  · obtain ⟨bucket, -, rfl⟩ := List.mem_map.1 he
    exact .inl (s.marks_stepTag step bucket.1)

/-! ## Expansions of two steps -/

/-- The same map under two steps: the step is another one in the tags of own documents, of triggers
and of pinned packages, and everything else is as it was. -/
structure SameUnder (s : Schema) (step step' : String) (requires a b : DocumentMap) : Prop where
  /-- The documents are the same, and their edges lead to the same documents. -/
  relabelled : a.Relabelled (s.withStep step step') b
  /-- Under the tags of prerequisites there is the same, edges included. -/
  required : ∀ t, requires.contains t = true → s.withStep step step' t = t ∧ b.get? t = a.get? t
  /-- All other tags are those of one document under the one step and under the other. -/
  own : ∀ t, a.contains t = true → requires.contains t = false →
    s.SameTag step step' t (s.withStep step step' t)

/-- A tag of the map tells its step, or it is that of a prerequisite. -/
theorem exists_sameTag (step' : String)
    (h : (assemble s step requires (s.triggerDocuments c.registry pm step params) buckets).contains
      t = true) :
    (∃ t', s.SameTag step step' t t') ∨ requires.contains t = true := by
  rcases contains_assemble.1 h with hown | htrigger | hrequired
  · obtain ⟨bucket, -, rfl⟩ := List.mem_map.1 hown
    exact .inl ⟨_, .own bucket.1⟩
  · exact .inl (sameTag_of_trigger step' htrigger)
  · exact .inr hrequired

/-- Under tags that the step does not mark there are prerequisites only. -/
theorem get?_assemble_of_not_marks (h : ¬ s.Marks step t) :
    (assemble s step requires (s.triggerDocuments c.registry pm step params) buckets).get? t =
      requires.get? t := by
  have htrigger : (s.triggerDocuments c.registry pm step params).get? t = none :=
    Option.eq_none_iff_forall_ne_some.2 fun d hd => h (marks_of_trigger (Table.contains_of_get? hd))
  rw [get?_assemble_of_not_mem fun hown => h (marks_of_mem_ownTags hown), Table.get?_union,
    htrigger, Option.none_or]

/-- Documents that list pins are the step's own, if prerequisites list none. -/
theorem sameTag_of_pinnedAt (step' : String) (hapart : ApartFrom s step requires)
    (hunpinned : requires.Unpinned)
    (h : (assemble s step requires
      (s.triggerDocuments c.registry pm step params) buckets).PinnedAt t) :
    ∃ t', s.SameTag step step' t t' := by
  obtain ⟨d, hd, hpins⟩ := h
  refine (exists_sameTag step' (Table.contains_of_get? hd)).resolve_right fun hrequired => hpins ?_
  rw [get?_assemble_of_not_marks (hapart t hrequired)] at hd
  exact DocumentMap.unpinned_iff.1 hunpinned t d hd

/-- The pins of a step are taken apart in the same way under another one. -/
theorem assemble_keepsPins (hapart : ApartFrom s step requires)
    (hapart' : ApartFrom s step' requires) (hclosed : requires.Closed)
    (hunpinned : requires.Unpinned) :
    DocumentMap.KeepsPins (s.withStep step step') {t | s.Marks step t ∨ ¬ s.Marks step' t}
      (assemble s step requires (s.triggerDocuments c.registry pm step params) buckets) := by
  have hkeys : ∀ t,
      (assemble s step requires (s.triggerDocuments c.registry pm step params) buckets).contains t
        = true →
        s.Marks step t ∨ ¬ s.Marks step' t := by
    intro t ht
    rcases exists_sameTag step' ht with ⟨t', hsame⟩ | hrequired
    · exact .inl hsame.marks
    · exact .inr (hapart' t hrequired)
  have hpinned : ∀ {t},
      (assemble s step requires (s.triggerDocuments c.registry pm step params) buckets).PinnedAt t →
        ∃ t', s.SameTag step step' t t' :=
    sameTag_of_pinnedAt step' hapart hunpinned
  refine ⟨s.withStep_injOn step step', hkeys, fun t d hd e he => ?_, fun t u ht hu hbefore => ?_,
    fun p hp => ?_, fun p hp => ?_⟩
  · exact hkeys e.tag (DocumentMap.closed_iff.1 (assemble_closed hclosed triggerDocuments_closed) t
      d hd e he)
  · obtain ⟨t', ht⟩ := hpinned ht
    obtain ⟨u', hu⟩ := hpinned hu
    exact Schema.before_withStep ht.marks hu.marks hbefore
  · obtain ⟨t', hsame⟩ := hpinned (DocumentMap.pinnedAt_of_mem_pinned hp)
    exact .inl (hsame.pin p.entry).marks
  · obtain ⟨t', hsame⟩ := hpinned (DocumentMap.pinnedAt_of_mem_pinned hp)
    rw [(hsame.pin p.entry).withStep_eq, hsame.withStep_eq]

/-- A document of an expansion is the step's own, or that of a prerequisite with its edges. -/
theorem sameTag_or_required_of_mem_expand (step' : String) (hapart : ApartFrom s step requires)
    (hclosed : requires.Closed) (hunpinned : requires.Unpinned) {maps : List DocumentMap}
    (h : (assemble s step requires (s.triggerDocuments c.registry pm step params) buckets).expand =
      .ok maps)
    {a : DocumentMap} (ha : a ∈ maps) (hd : a.get? t = some d) :
    (∃ t', s.SameTag step step' t t') ∨
      requires.contains t = true ∧ ∀ e ∈ d.edges, requires.contains e.tag = true := by
  rcases DocumentMap.exists_of_mem_expand h ha hd with ⟨p, hp, pin, rfl, -⟩
    | ⟨original, horiginal, hdoc⟩
  · obtain ⟨t', hsame⟩ :=
      sameTag_of_pinnedAt step' hapart hunpinned (DocumentMap.pinnedAt_of_mem_pinned hp)
    exact .inl ⟨_, hsame.pin p.entry⟩
  · have hkey := exists_sameTag step' (Table.contains_of_get? horiginal)
    refine hkey.imp_right fun hrequired => ⟨hrequired, ?_⟩
    rw [get?_assemble_of_not_marks (hapart t hrequired)] at horiginal
    have hedges : d.edges = original.edges := by
      rcases hdoc with rfl | rfl
      · rfl
      · exact Document.edges_reduced
    rw [hedges]
    exact DocumentMap.closed_iff.1 hclosed t original horiginal

/-- A map of such documents and the relabelled one are the same map under two steps. -/
theorem SameUnder.of_relabelled (hapart : ApartFrom s step requires)
    (hapart' : ApartFrom s step' requires) {a b : DocumentMap}
    (horigin : ∀ t d, a.get? t = some d → (∃ t', s.SameTag step step' t t') ∨
      requires.contains t = true ∧ ∀ e ∈ d.edges, requires.contains e.tag = true)
    (h : a.Relabelled (s.withStep step step') b) : SameUnder s step step' requires a b := by
  have hfixed : ∀ t, requires.contains t = true → s.withStep step step' t = t := fun t ht =>
    Schema.withStep_of_not_marks (hapart t ht)
  refine ⟨h, fun t ht => ⟨hfixed t ht, ?_⟩, fun t ht hnot => ?_⟩
  · have hinj : ∀ u, a.contains u = true →
        s.withStep step step' u = s.withStep step step' t → u = t := by
      intro u hu heq
      refine s.withStep_injOn step step' ?_ (.inr (hapart' t ht)) heq
      obtain ⟨d, hd⟩ := Table.contains_iff.1 hu
      rcases horigin u d hd with ⟨u', hsame⟩ | ⟨hrequired, -⟩
      · exact .inl hsame.marks
      · exact .inr (hapart' u hrequired)
    have hget := h.get?_eq hinj
    rw [hfixed t ht] at hget
    rw [hget]
    cases hd : a.get? t with
    | none => rfl
    | some d =>
      rcases horigin t d hd with ⟨t', hsame⟩ | ⟨-, hedges⟩
      · exact absurd hsame.marks (hapart t ht)
      · rw [Option.map_some, Document.relabel_eq_self fun e he => hfixed e.tag (hedges e he)]
  · obtain ⟨d, hd⟩ := Table.contains_iff.1 ht
    rcases horigin t d hd with ⟨t', hsame⟩ | ⟨hrequired, -⟩
    · rw [hsame.withStep_eq]
      exact hsame
    · rw [hnot] at hrequired
      cases hrequired

/-- An expansion gives the same maps under another step, or the same error. -/
theorem expand_assemble_relabelled (hapart : ApartFrom s step requires)
    (hapart' : ApartFrom s step' requires) (hclosed : requires.Closed)
    (hunpinned : requires.Unpinned) :
    AgreeUpTo (List.Forall₂ (SameUnder s step step' requires))
      (assemble s step requires (s.triggerDocuments c.registry pm step params) buckets).expand
      (assemble s step' requires (s.triggerDocuments c.registry pm step' params)
        buckets).expand := by
  have hkeeps : DocumentMap.KeepsPins (s.withStep step step') _
      (assemble s step requires (s.triggerDocuments c.registry pm step params) buckets) :=
    assemble_keepsPins hapart hapart' hclosed hunpinned
  rcases DocumentMap.expand_relabelled hkeeps (assemble_relabelled hapart hapart' hclosed) with
    ⟨e, h, h'⟩ | ⟨maps, maps', h, h', hmaps⟩
  · rw [h, h']
    exact .error e
  · rw [h, h']
    have horigin : ∀ a ∈ maps, ∀ t d, a.get? t = some d → (∃ t', s.SameTag step step' t t') ∨
        requires.contains t = true ∧ ∀ e ∈ d.edges, requires.contains e.tag = true :=
      fun a ha t d => sameTag_or_required_of_mem_expand step' hapart hclosed hunpinned h ha
    refine .ok (((List.forall₂_and_left _ _).2 ⟨horigin, hmaps⟩).imp fun a b hab => ?_)
    exact .of_relabelled hapart hapart' hab.1 hab.2

/-! ## The standard modules -/

/-- What the prerequisites of a standard module come to: no pins, and no tag in which the module or
one that it triggers is named behind an underscore. -/
theorem required_apart (hs : s ∈ standardSchemas) {p : Platform}
    (h : (standard.requirements s).run (Context.start p) = (.ok requires, Context.start p)) :
    requires.Unpinned ∧ ∀ step, ApartFrom s step requires := by
  have hall : ∀ p ∈ [Platform.centos, Platform.debian], ∀ s ∈ standardSchemas,
      ((standard.requirements s).run (Context.start p)).1.toOption.all (fun requires =>
        requires.Unpinned ∧ ∀ t ∈ requires.keys, ∀ m ∈ s.ownModules,
          ¬ '_' :: (moduleTag m).toList <:+: t.toList) = true := by
    decide +kernel
  have hplatform : ∃ p' ∈ [Platform.centos, Platform.debian],
      p.packageManager = p'.packageManager := by
    cases p <;> decide
  obtain ⟨p', hp', hpm⟩ := hplatform
  have hchecked := hall p' hp' s hs
  rw [(requirements_start_congr hpm).1 h] at hchecked
  obtain ⟨hunpinned, hapart⟩ := of_decide_eq_true hchecked
  refine ⟨hunpinned, fun step t ht hmarks => ?_⟩
  obtain ⟨m, hm, rest, rfl⟩ := hmarks
  refine hapart _ (Table.mem_keys.2 ht) m hm ⟨(stateSuffix step).toList, rest.toList, ?_⟩
  rw [stepPrefix_eq]
  simp [String.toList_append]

/-- The step is only a label: converting under two steps that are not blank fails with one error, or
it gives as many maps, one by one the same but for the step in the tags. The documents of
prerequisites are the same in everything. -/
theorem standard_step_label {step step' : String} (hstep : Text.isBlankText step.toList = false)
    (hstep' : Text.isBlankText step'.toList = false) (module : String) (params : Parameters)
    (platform : String) :
    AgreeUpTo
      (fun maps maps' => ∃ s p requires,
        standard.registry.get? module = some s ∧ Named.ofName? platform = some p ∧
        (standard.requirements s).run (Context.start p) = (.ok requires, Context.start p) ∧
        List.Forall₂ (SameUnder s step step' requires) maps maps')
      (standard.convert step module params platform)
      (standard.convert step' module params platform) := by
  rw [convert_eq, convert_eq]
  unfold documents
  rw [check_congr_step (hstep.trans hstep'.symm)]
  cases hcheck : standard.check step' module platform with
  | error e => exact .error e
  | ok found =>
    obtain ⟨s, p⟩ := found
    obtain ⟨-, -, hp, hget, -⟩ := check_eq_ok_iff.1 hcheck
    obtain ⟨hs, -⟩ := Registry.mem_of_get?_ofList hget
    refine (compile_start_agree rfl).bind fun m m' hm => ?_
    obtain ⟨attributes, buckets, requires, -, -, hrequires, rfl, rfl⟩ := hm
    obtain ⟨hunpinned, hapart⟩ := required_apart hs hrequires
    refine (expand_assemble_relabelled (hapart step) (hapart step') (requirements_closed hrequires)
      hunpinned).mono
      fun maps maps' hmaps => ⟨s, p, requires, hget, hp, hrequires, hmaps⟩

/-- A pinned package that is installed in a step named like the step of prerequisites, and in
another step. -/
theorem pinnedPackage_step_label : ∃ maps maps',
    standard.convert "require" "common.pip.package"
      (.singleton "name" (.strings ["a==1", "b"])) "ubuntu"
      = .ok maps ∧
    standard.convert "1" "common.pip.package" (.singleton "name" (.strings ["a==1", "b"])) "ubuntu"
      = .ok maps' ∧
    maps.length = 2 ∧ maps'.length = 2 ∧
    ∃ s requires, standard.registry.get? "common.pip.package" = some s ∧
      List.Forall₂ (SameUnder s "require" "1" requires) maps maps' := by
  have hagree := standard_step_label (by decide : Text.isBlankText "require".toList = false)
    (by decide : Text.isBlankText "1".toList = false) "common.pip.package"
    (.singleton "name" (.strings ["a==1", "b"])) "ubuntu"
  rcases hagree with ⟨e, h, -⟩ | ⟨maps, maps', h, h', s, p, requires, hget, -, -, hmaps⟩
  · have hok : (standard.convert "require" "common.pip.package"
        (.singleton "name" (.strings ["a==1", "b"])) "ubuntu").isOk = true := by
      decide +kernel
    rw [h] at hok
    cases hok
  · have hlength : (standard.convert "require" "common.pip.package"
        (.singleton "name" (.strings ["a==1", "b"])) "ubuntu").toOption.map List.length
          = some 2 := by
      decide +kernel
    rw [h] at hlength
    have htwo : maps.length = 2 := Option.some.inj hlength
    exact ⟨maps, maps', h, h', htwo, hmaps.length_eq.symm.trans htwo, s, requires, hget, hmaps⟩

end Converter

end Provision
