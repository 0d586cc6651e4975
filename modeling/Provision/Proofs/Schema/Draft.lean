import Provision.Proofs.Registry.Check
import Provision.Schema.Draft

/-!
# What the parts of a draft come to

A draft is put together part by part, and a part may change what an earlier one did: a raw parameter
gets another key, states replace states, an attribute goes to a trigger that is already there. What
comes out in the end can be read off the whole list of parts all the same. `Collects` says how, with
a line for each field. One part more does to each field what it does to the list (`Collects.add`),
so every draft collects its parts (`ofParts_collects`), and whether it can be built is a question
about the parts (`Collects.sound_iff`).

Of the fields only the triggers take an argument, because a part reaches back to an earlier trigger.
They are the attributes that are passed on, `grouped` by module. One attribute more makes the group
of its module longer or is a new group behind the others, and that is what looking for the trigger
of the module does (`addTrigger_grouped`).
-/

namespace Provision.Draft

variable {α : Type} {id module key : String} {resourceType : ResourceType} {parts : List Part}
  {d : Draft} {s : Schema} {a : TriggerAttribute}

/-! ## What the parts say -/

namespace Part

/-- The raw parameter that a part is about, with the backend key that it gets. -/
def parameter? : Part → Option (String × String)
  | .parameter raw backend => some (raw, backend)
  | _ => none

/-- The states that a part declares. -/
def states? : Part → Option (List String)
  | .states declared => some declared
  | _ => none

/-- The package manager that a part binds the module to. -/
def packageManager? : Part → Option PackageManager
  | .packageManager pm => some pm
  | _ => none

/-- What a part requires. -/
def prerequisite? : Part → Option Prerequisite
  | .requirement module name value => some ⟨module, .singleton name value⟩
  | _ => none

/-- The module that a part triggers, with the attribute that is passed to it. -/
def trigger? : Part → Option (String × TriggerAttribute)
  | .trigger module a => some (module, a)
  | _ => none

end Part

/-- What the pairs of a list have for one key, in their order. -/
def valuesAt (key : String) (l : List (String × α)) : List α :=
  (l.filter fun e => e.1 = key).map (·.2)

/-- The backend key that a raw parameter ends up with: the last one that it was given. -/
def keyOf? (parts : List Part) (raw : String) : Option String :=
  (valuesAt raw (parts.filterMap Part.parameter?)).getLast?

/-- The triggers that pass on some attributes: one for each module, in the order in which the
modules are named first, with the attributes of the module in their order. -/
def grouped (l : List (String × TriggerAttribute)) : List Trigger :=
  (l.map (·.1)).eraseDups.map fun module => ⟨module, valuesAt module l⟩

/-- A schema is what some parts come to. -/
structure Collects (id : String) (resourceType : ResourceType) (parts : List Part) (s : Schema) :
    Prop where
  id : s.id = id
  resourceType : s.resourceType = resourceType
  attributes : ∀ raw, s.attributes.get? raw = keyOf? parts raw
  /-- The states that were declared last. -/
  states : s.states = (parts.filterMap Part.states?).getLast?.getD []
  packageManager : s.packageManager = (parts.filterMap Part.packageManager?).getLast?
  requires : s.requires = parts.filterMap Part.prerequisite?
  triggers : s.triggers = grouped (parts.filterMap Part.trigger?)

/-! ## One more at the end -/

/-- What one more item adds stands at the end. -/
theorem filterMap_concat {β : Type} (f : α → Option β) (l : List α) (x : α) :
    (l ++ [x]).filterMap f = l.filterMap f ++ (f x).toList := by
  rw [List.filterMap_append]
  cases h : f x <;> simp [h]

theorem mem_valuesAt {l : List (String × α)} {x : α} : x ∈ valuesAt key l ↔ (key, x) ∈ l := by
  unfold valuesAt
  simp

/-- One more entry adds to the values of its own key only. -/
theorem valuesAt_concat (l : List (String × α)) (e : String × α) :
    valuesAt key (l ++ [e]) = if key = e.1 then valuesAt key l ++ [e.2] else valuesAt key l := by
  unfold valuesAt
  rw [List.filter_append, List.map_append]
  by_cases h : key = e.1
  · simp [h]
  · simp [h, Ne.symm h]

/-- A text that was seen before changes nothing, and a new one comes last. -/
theorem eraseDups_concat (l : List String) (x : String) :
    (l ++ [x]).eraseDups = if x ∈ l then l.eraseDups else l.eraseDups ++ [x] := by
  rw [List.eraseDups_append]
  by_cases h : x ∈ l <;> simp [List.removeAll, h, List.eraseDups_cons]

theorem nodup_eraseDups (l : List String) : l.eraseDups.Nodup := by
  induction l using List.reverseRecOn with
  | nil => exact List.nodup_nil
  | append_singleton l x ih =>
    rw [eraseDups_concat]
    split
    · exact ih
    · next hnew =>
      rw [← List.concat_eq_append, List.nodup_concat]
      exact ⟨fun hmem => hnew (List.mem_eraseDups.1 hmem), ih⟩

/-! ## Triggers -/

/-- There is a group for each module, in the order of their first mention. -/
theorem map_module_grouped (l : List (String × TriggerAttribute)) :
    (grouped l).map (·.module) = (l.map (·.1)).eraseDups := by
  unfold grouped
  rw [List.map_map]
  exact List.map_id _

/-- A module without a trigger gets one behind the others. -/
theorem addTrigger_of_forall_ne {triggers : List Trigger} (h : ∀ t ∈ triggers, t.module ≠ module) :
    addTrigger module a triggers = triggers ++ [⟨module, [a]⟩] := by
  induction triggers with
  | nil => rfl
  | cons t rest ih =>
    obtain ⟨hhead, hrest⟩ := List.forall_mem_cons.1 h
    rw [addTrigger, if_neg hhead, ih hrest, List.cons_append]

/-- The trigger of a module gets longer, and the others stay. -/
theorem addTrigger_of_mem {modules : List String} {passed : String → List TriggerAttribute}
    (hnodup : modules.Nodup) (hmem : module ∈ modules) :
    addTrigger module a (modules.map fun m => ⟨m, passed m⟩) =
      modules.map fun m => ⟨m, if m = module then passed m ++ [a] else passed m⟩ := by
  induction modules with
  | nil => cases hmem
  | cons first rest ih =>
    obtain ⟨hfirst, hrest⟩ := List.nodup_cons.1 hnodup
    rw [List.map_cons, List.map_cons, addTrigger]
    by_cases heq : first = module
    · -- the module does not come again, so nothing changes behind its trigger
      rw [if_pos heq, if_pos heq]
      refine congrArg _ (List.map_congr_left fun m hm => ?_)
      rw [if_neg fun hm' => hfirst (by rwa [heq, ← hm'])]
    · rw [if_neg heq, if_neg heq, ih hrest ((List.mem_cons.1 hmem).resolve_left (Ne.symm heq))]

/-- To look for the trigger of a module and add an attribute to it groups the attribute with the
others. -/
theorem addTrigger_grouped (l : List (String × TriggerAttribute)) (e : String × TriggerAttribute) :
    addTrigger e.1 e.2 (grouped l) = grouped (l ++ [e]) := by
  unfold grouped
  simp only [valuesAt_concat]
  rw [List.map_append, List.map_singleton, eraseDups_concat]
  by_cases hmem : e.1 ∈ l.map (·.1)
  · rw [if_pos hmem, addTrigger_of_mem (nodup_eraseDups _) (List.mem_eraseDups.2 hmem)]
  · have hothers : ∀ m ∈ (l.map (·.1)).eraseDups, m ≠ e.1 :=
      fun m hm heq => hmem (heq ▸ List.mem_eraseDups.1 hm)
    have hnone : valuesAt e.1 l = [] :=
      List.eq_nil_iff_forall_not_mem.2 fun x hx => hmem (List.mem_map.2 ⟨_, mem_valuesAt.1 hx, rfl⟩)
    rw [if_neg hmem, addTrigger_of_forall_ne (List.forall_mem_map.2 hothers), List.map_append,
      List.map_singleton, if_pos rfl, hnone]
    congr 1
    exact List.map_congr_left fun m hm => by rw [if_neg (hothers m hm)]

/-! ## Parts -/

section

variable (d : Draft) (part : Part)

theorem add_id : (d.add part).schema.id = d.schema.id := by cases part <;> rfl

theorem add_resourceType : (d.add part).schema.resourceType = d.schema.resourceType := by
  cases part <;> rfl

theorem add_attributes :
    (d.add part).schema.attributes = d.schema.attributes.insertAll part.parameter?.toList := by
  cases part <;> rfl

theorem add_states : (d.add part).schema.states = part.states?.getD d.schema.states := by
  cases part <;> rfl

theorem add_packageManager :
    (d.add part).schema.packageManager = part.packageManager?.or d.schema.packageManager := by
  cases part <;> rfl

theorem add_requires :
    (d.add part).schema.requires = d.schema.requires ++ part.prerequisite?.toList := by
  cases part <;> first | rfl | exact (List.append_nil _).symm

theorem add_triggers : (d.add part).schema.triggers =
    part.trigger?.toList.foldl (fun triggers e => addTrigger e.1 e.2 triggers)
      d.schema.triggers := by
  cases part <;> rfl

end

/-- A part does to each field what it does to the list of all parts. -/
theorem Collects.add (h : Collects id resourceType parts d.schema) (part : Part) :
    Collects id resourceType (parts ++ [part]) (d.add part).schema where
  id := (d.add_id part).trans h.id
  resourceType := (d.add_resourceType part).trans h.resourceType
  attributes raw := by
    unfold keyOf?
    rw [add_attributes, filterMap_concat]
    cases part.parameter? with
    | none => simpa [keyOf?] using h.attributes raw
    | some e =>
      rw [Option.toList_some, Table.insertAll_cons, Table.insertAll_nil, Table.get?_insert,
        valuesAt_concat, h.attributes]
      split
      · exact List.getLast?_concat.symm
      · rfl
  states := by
    rw [add_states, filterMap_concat, h.states]
    cases part.states? <;> simp
  packageManager := by
    rw [add_packageManager, filterMap_concat, h.packageManager]
    cases part.packageManager? <;> simp
  requires := by rw [add_requires, filterMap_concat, h.requires]
  triggers := by
    rw [add_triggers, filterMap_concat, h.triggers]
    cases part.trigger? with
    | none => simp
    | some e => exact addTrigger_grouped _ e

/-- The schema of a draft has collected the parts, each field by the rule for it. -/
theorem ofParts_collects (id : String) (resourceType : ResourceType) (parts : List Part) :
    Collects id resourceType parts (ofParts id resourceType parts).schema := by
  induction parts using List.reverseRecOn with
  | nil => exact ⟨rfl, rfl, fun _ => rfl, rfl, rfl, rfl, rfl⟩
  | append_singleton parts part ih =>
    have hlast : ofParts id resourceType (parts ++ [part]) =
        (ofParts id resourceType parts).add part :=
      List.foldl_concat ..
    rw [hlast]
    exact ih.add part

/-- A draft triggers no module twice. -/
theorem nodup_triggers_ofParts (id : String) (resourceType : ResourceType) (parts : List Part) :
    ((ofParts id resourceType parts).schema.triggers.map (·.module)).Nodup := by
  rw [(ofParts_collects id resourceType parts).triggers, map_module_grouped]
  exact nodup_eraseDups _

/-! ## Building -/

theorem build_eq_ok_iff : d.build = .ok s ↔ d.schema.Sound ∧ d.schema = s := by
  unfold build
  rw [← Schema.check_eq_ok_iff]
  cases d.schema.check with
  | error e => exact iff_of_false (by simp) (by simp)
  | ok u => simp [ok_bind, pure, Except.pure]

/-- A raw parameter has a key in the end if it was ever given one. -/
theorem exists_keyOf?_iff :
    (∃ raw key, keyOf? parts raw = some key) ↔ ∃ raw backend, .parameter raw backend ∈ parts := by
  have hgiven : ∀ raw backend, (raw, backend) ∈ parts.filterMap Part.parameter? ↔
      .parameter raw backend ∈ parts := by
    intro raw backend
    rw [List.mem_filterMap]
    constructor
    · rintro ⟨part, hpart, heq⟩
      cases part <;> cases heq
      exact hpart
    · intro hpart
      exact ⟨_, hpart, rfl⟩
  simp only [← hgiven, ← mem_valuesAt]
  refine exists_congr fun raw => ?_
  unfold keyOf?
  rw [← Option.isSome_iff_exists, List.getLast?_isSome]
  exact ⟨List.exists_mem_of_ne_nil _, fun ⟨_, hmem⟩ => List.ne_nil_of_mem hmem⟩

/-- What the check asks of a schema, said of the parts that it was put together from. -/
theorem Collects.sound_iff (h : Collects id resourceType parts s) : s.Sound ↔
    (∃ declared, (parts.filterMap Part.states?).getLast? = some declared ∧ declared ≠ []) ∧
    (∃ raw backend, .parameter raw backend ∈ parts) ∧
    ∀ raw raw' key, keyOf? parts raw = some key → keyOf? parts raw' = some key → raw = raw' := by
  have hstates : s.states ≠ [] ↔
      ∃ declared, (parts.filterMap Part.states?).getLast? = some declared ∧ declared ≠ [] := by
    rw [h.states]
    cases (parts.filterMap Part.states?).getLast? <;> simp
  have hattributes : s.attributes.entries ≠ [] ↔ ∃ raw backend, .parameter raw backend ∈ parts := by
    rw [Table.entries_ne_nil_iff, ← exists_keyOf?_iff]
    simp only [h.attributes]
  have hdistinct : s.attributes.values.Nodup ↔
      ∀ raw raw' key, keyOf? parts raw = some key → keyOf? parts raw' = some key → raw = raw' := by
    rw [Table.nodup_values_iff]
    simp only [h.attributes]
  rw [← hstates, ← hattributes, ← hdistinct]
  exact ⟨fun hs => ⟨hs.states, hs.attributes, hs.distinct⟩, fun ⟨hs, ha, hd⟩ => ⟨hs, ha, hd⟩⟩

/-- A schema that is built collects the parts of its draft, and its triggers are of different
modules. It can be built exactly if the states declared last are not empty, some raw parameter was
given a key, and no two raw parameters end up with the same key. -/
theorem build_collects (id : String) (resourceType : ResourceType) (parts : List Part) :
    (∀ s, (ofParts id resourceType parts).build = .ok s →
      Collects id resourceType parts s ∧ (s.triggers.map (·.module)).Nodup) ∧
    ((∃ s, (ofParts id resourceType parts).build = .ok s) ↔
      (∃ declared, (parts.filterMap Part.states?).getLast? = some declared ∧ declared ≠ []) ∧
      (∃ raw backend, .parameter raw backend ∈ parts) ∧
      ∀ raw raw' key, keyOf? parts raw = some key → keyOf? parts raw' = some key → raw = raw') := by
  have hcollects := ofParts_collects id resourceType parts
  simp only [build_eq_ok_iff]
  refine ⟨?built, ?buildable⟩
  case built =>
    rintro s ⟨-, rfl⟩
    exact ⟨hcollects, nodup_triggers_ofParts id resourceType parts⟩
  case buildable =>
    rw [← hcollects.sound_iff]
    exact ⟨fun ⟨_, hs, _⟩ => hs, fun hs => ⟨_, hs, rfl⟩⟩

/-- Parts in which a second key for `title` clears the first one, which `name` has, and in which two
modules are triggered by turns. -/
def siteParts : List Part :=
  [.parameter "name" "name", .parameter "title" "name", .trigger "command" ⟨"test $name", "name"⟩,
    .states [], .trigger "service" ⟨"name", "name"⟩, .requirement "package" "name" (.str "nginx"),
    .parameter "title" "comment", .states ["managed", "absent"],
    .trigger "command" ⟨"folder", "cwd"⟩]

/-- The parts can be built, though not with the first key of `title`, and the attributes for
`command` are in one trigger, in front of that for `service`. -/
theorem siteParts_built :
    (∃ s, (ofParts "site" .file siteParts).build = .ok s ∧
      s.triggers = [⟨"command", [⟨"test $name", "name"⟩, ⟨"folder", "cwd"⟩]⟩,
        ⟨"service", [⟨"name", "name"⟩]⟩]) ∧
    ¬ ∃ s, (ofParts "site" .file (siteParts.eraseIdx 6)).build = .ok s := by
  refine ⟨?built, ?refused⟩
  case built =>
    obtain ⟨s, hs⟩ := exists_eq_ok_of_isOk
      (show (ofParts "site" .file siteParts).build.isOk = true by decide +kernel)
    obtain ⟨hall, -⟩ := build_collects "site" .file siteParts
    exact ⟨s, hs, (hall s hs).1.triggers.trans (by decide +kernel)⟩
  case refused =>
    obtain ⟨-, hbuildable⟩ := build_collects "site" .file (siteParts.eraseIdx 6)
    intro hbuilt
    obtain ⟨-, -, hdistinct⟩ := hbuildable.1 hbuilt
    exact absurd (hdistinct "name" "title" "name" rfl rfl) (by decide)

end Provision.Draft
