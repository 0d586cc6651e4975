import Provision.Conversion.Basic
import Provision.Proofs.Registry.Search
import Provision.Proofs.Registry.Standard
import Provision.Proofs.Results
import Provision.Registry.Json

/-!
# What a check accepts

A registry is `Sound` when each schema is, when every module that is named is registered, and when
no module requires itself by way of others. `check_eq_ok_iff` says that the check accepts exactly
these. One half of it, and what a refusal names (`circle_of_check`), come from the search for
circles; the rest is read off the schemas one by one. A file adds that no module comes twice
(`ofSchemas_eq_ok_iff`), and since soundness looks schemas up and does not ask for their order,
neither does a file.
-/

namespace Provision

open Relation

namespace Schema

variable {s : Schema}

/-- A schema can be worked with: there is a state, there is an attribute, and no two attributes go
under one key. -/
structure Sound (s : Schema) : Prop where
  states : s.states ≠ []
  attributes : s.attributes.entries ≠ []
  distinct : s.attributes.values.Nodup

/-- There is no repetition if no text comes twice and none was seen before. -/
theorem firstRepeat?_eq_none_iff {seen l : List String} :
    firstRepeat? seen l = none ↔ (∀ k ∈ l, k ∉ seen) ∧ l.Nodup := by
  induction l generalizing seen with
  | nil => simp [firstRepeat?]
  | cons k l ih =>
    rw [firstRepeat?, List.forall_mem_cons, List.nodup_cons]
    by_cases hk : k ∈ seen
    · simp [hk]
    · -- behind the first text, its own repetition is what the larger list of seen ones excludes
      rw [if_neg hk, ih]
      simp only [List.mem_cons, not_or, hk, not_false_eq_true, true_and]
      constructor
      · intro h
        obtain ⟨hseen, hnodup⟩ := h
        exact ⟨fun x hx => (hseen x hx).2, fun hmem => (hseen k hmem).1 rfl, hnodup⟩
      · intro h
        obtain ⟨hseen, hfirst, hnodup⟩ := h
        exact ⟨fun x hx => ⟨fun heq => hfirst (heq ▸ hx), hseen x hx⟩, hnodup⟩

/-- The check of a schema accepts exactly the sound ones. -/
theorem check_eq_ok_iff : s.check = .ok () ↔ s.Sound := by
  unfold check
  by_cases hstates : s.states = []
  · simpa [hstates] using fun h : s.Sound => h.states hstates
  · by_cases hattributes : s.attributes.entries = []
    · simpa [hstates, hattributes, Table.isEmpty] using fun h : s.Sound => h.attributes hattributes
    · rw [if_neg (by simpa using hstates), if_neg (by simpa [Table.isEmpty] using hattributes)]
      have hiff := @firstRepeat?_eq_none_iff [] s.attributes.values
      cases hrepeat : firstRepeat? [] s.attributes.values with
      | some key =>
        rw [hrepeat] at hiff
        simpa using fun h : s.Sound => absurd (hiff.2 ⟨by simp, h.distinct⟩) (by simp)
      | none => exact iff_of_true rfl ⟨hstates, hattributes, (hiff.1 hrepeat).2⟩

/-- A check of one schema knows nothing of circles. -/
theorem check_ne_cycle {path : List String} : s.check ≠ .error (.cycle path) := by
  unfold check
  repeat' split
  all_goals simp

end Schema

namespace Registry

variable {r found : Registry} {s : Schema} {m : String} {l l' : List Schema}

/-- What is asked of a registry: its schemas can be worked with, what they name is registered, and
no module requires itself by way of others. -/
structure Sound (r : Registry) : Prop where
  schemas : ∀ m s, r.get? m = some s → s.Sound
  references : ∀ m s, r.get? m = some s → ∀ x ∈ s.references, r.contains x = true
  acyclic : ∀ m, ¬ TransGen r.Requires m m

theorem mem_all : s ∈ r.all ↔ ∃ m, r.get? m = some s := Table.mem_values

theorem mem_ids : m ∈ r.ids ↔ ∃ s, r.get? m = some s := Table.mem_keys.trans Table.contains_iff

/-! ## The schemas -/

/-- A schema of a registry is accepted if it is sound and names registered modules only. -/
theorem checkSchema_eq_ok_iff :
    r.checkSchema s = .ok () ↔ s.Sound ∧ ∀ x ∈ s.references, r.contains x = true := by
  have hreferences : r.unknownReference? s = none ↔ ∀ x ∈ s.references, r.contains x = true := by
    unfold unknownReference?
    simp
  unfold checkSchema
  rw [bind_eq_ok_iff, ← Schema.check_eq_ok_iff, ← hreferences]
  cases r.unknownReference? s with
  | none => exact ⟨fun ⟨_, hs, _⟩ => ⟨hs, rfl⟩, fun ⟨hs, _⟩ => ⟨(), hs, rfl⟩⟩
  | some x => simp

theorem forM_checkSchema_eq_ok_iff : r.all.forM r.checkSchema = .ok () ↔
    (∀ m s, r.get? m = some s → s.Sound) ∧
      ∀ m s, r.get? m = some s → ∀ x ∈ s.references, r.contains x = true := by
  rw [forM_eq_ok_iff]
  simp only [checkSchema_eq_ok_iff, mem_all]
  constructor
  · intro h
    exact ⟨fun m s hs => (h s ⟨m, hs⟩).1, fun m s hs => (h s ⟨m, hs⟩).2⟩
  · intro h s hs
    obtain ⟨hsound, hreferences⟩ := h
    obtain ⟨m, hs⟩ := hs
    exact ⟨hsound m s hs, hreferences m s hs⟩

/-- What is said of a single schema never is that there is a circle. -/
theorem checkSchema_ne_cycle {path : List String} : r.checkSchema s ≠ .error (.cycle path) := by
  unfold checkSchema
  intro h
  cases hs : s.check with
  | error e =>
    rw [hs] at h
    cases h
    exact Schema.check_ne_cycle hs
  | ok _ =>
    rw [hs, ok_bind] at h
    cases hx : r.unknownReference? s <;> simp [hx] at h

/-! ## The registry -/

/-- A search from all modules finds no circle exactly if there is none. -/
theorem visitAll_eq_ok_iff :
    (∃ done, r.visitAll [] [] r.ids = .ok done) ↔ ∀ m, ¬ TransGen r.Requires m m := by
  have hexplored := visitAll_explored r r.ids
  constructor
  · intro h m
    obtain ⟨done, hdone⟩ := h
    rw [hdone] at hexplored
    obtain ⟨hends, -, hall⟩ := hexplored
    cases hm : r.get? m with
    | none => exact (ends_of_get?_eq_none hm).not_transGen
    | some s => exact (hends m (hall (mem_ids.2 ⟨s, hm⟩))).not_transGen
  · intro h
    cases hvisit : r.visitAll [] [] r.ids with
    | ok done => exact ⟨done, rfl⟩
    | error e =>
      rw [hvisit] at hexplored
      obtain ⟨path, -, hcircle⟩ := hexplored
      obtain ⟨m, hm⟩ := hcircle.exists_transGen
      exact absurd hm (h m)

/-- The check accepts exactly the sound registries. -/
theorem check_eq_ok_iff : r.check = .ok () ↔ r.Sound := by
  have hdiscard : (discard (r.visitAll [] [] r.ids) : Except RegistryError Unit) = .ok () ↔
      ∃ done, r.visitAll [] [] r.ids = .ok done := by
    cases r.visitAll [] [] r.ids with
    | error e => exact iff_of_false (fun h => nomatch h) (by simp)
    | ok done => exact iff_of_true rfl ⟨done, rfl⟩
  unfold check
  rw [bind_eq_ok_iff]
  constructor
  · intro h
    obtain ⟨_, hschemas, hvisit⟩ := h
    obtain ⟨hsound, hreferences⟩ := forM_checkSchema_eq_ok_iff.1 hschemas
    exact ⟨hsound, hreferences, visitAll_eq_ok_iff.1 (hdiscard.1 hvisit)⟩
  · intro h
    obtain ⟨hsound, hreferences, hacyclic⟩ := h
    exact ⟨(), forM_checkSchema_eq_ok_iff.2 ⟨hsound, hreferences⟩,
      hdiscard.2 (visitAll_eq_ok_iff.2 hacyclic)⟩

/-- A registry passes its check if its schemas do and each module stands above those that it
requires. -/
theorem check_eq_ok_of_rank (rank : String → Nat) (hschemas : r.all.forM r.checkSchema = .ok ())
    (hrank : ∀ s ∈ r.all, ∀ p ∈ s.requires, rank p.module < rank s.id) : r.check = .ok () := by
  obtain ⟨hsound, hreferences⟩ := forM_checkSchema_eq_ok_iff.1 hschemas
  have hstep : ∀ m x, r.Requires m x → rank x < rank m := by
    intro m x h
    obtain ⟨s, hs, hx⟩ := h
    obtain ⟨p, hp, rfl⟩ := List.mem_map.1 hx
    rw [← id_of_get? hs]
    exact hrank s (mem_all.2 ⟨m, hs⟩) p hp
  have hchain : ∀ m x, TransGen r.Requires m x → rank x < rank m := by
    intro m x h
    induction h with
    | single h => exact hstep _ _ h
    | tail _ h ih => exact (hstep _ _ h).trans ih
  exact check_eq_ok_iff.2 ⟨hsound, hreferences, fun m h => Nat.lt_irrefl _ (hchain m m h)⟩

/-- The path that a check refuses a registry for is a circle. -/
theorem circle_of_check {path : List String} (h : r.check = .error (.cycle path)) :
    r.Circle path := by
  unfold check at h
  cases hschemas : r.all.forM r.checkSchema with
  | error e =>
    rw [hschemas] at h
    cases h
    obtain ⟨s, -, hs⟩ := exists_of_forM_eq_error hschemas
    exact absurd hs checkSchema_ne_cycle
  | ok _ =>
    rw [hschemas, ok_bind] at h
    have hexplored := visitAll_explored r r.ids
    cases hvisit : r.visitAll [] [] r.ids with
    | ok done =>
      rw [hvisit] at h
      cases h
    | error e =>
      rw [hvisit] at h hexplored
      obtain ⟨path', rfl, hcircle⟩ := hexplored
      cases h
      exact hcircle

/-! ## Files -/

theorem ext_get? (h : ∀ m, r.get? m = found.get? m) : r = found := by
  cases r
  cases found
  simp only [Registry.mk.injEq]
  exact Table.ext_get? h

theorem contains_register_eq_false_iff :
    (r.register s).contains m = false ↔ m ≠ s.id ∧ r.contains m = false := by
  unfold contains
  rw [← not_iff_not, not_and_or]
  simp only [register, Bool.not_eq_false, Table.contains_insert, not_not, ne_eq]

/-- Schemas can be added if each is sound by itself and none has the id of another or of one
before. -/
theorem addAll_eq_ok_iff : addAll r l = .ok found ↔
    (∀ s ∈ l, s.Sound) ∧ (∀ s ∈ l, r.contains s.id = false) ∧ (l.map (·.id)).Nodup ∧
      found = l.foldl register r := by
  induction l generalizing r with
  | nil => simp [addAll, eq_comm (a := found)]
  | cons s l ih =>
    rw [addAll, bind_eq_ok_iff, List.forall_mem_cons, List.forall_mem_cons, List.map_cons,
      List.nodup_cons, List.foldl_cons, ← Schema.check_eq_ok_iff]
    cases hs : r.contains s.id with
    | true => simp
    | false =>
      simp only [Bool.false_eq_true, if_false, ih, contains_register_eq_false_iff, List.mem_map]
      constructor
      · intro h
        obtain ⟨_, hcheck, hsound, hnew, hnodup, hfound⟩ := h
        have hfirst : ¬ ∃ s' ∈ l, s'.id = s.id := fun ⟨s', hs', heq⟩ => (hnew s' hs').1 heq
        exact ⟨⟨hcheck, hsound⟩, ⟨trivial, fun s' hs' => (hnew s' hs').2⟩, ⟨hfirst, hnodup⟩, hfound⟩
      · intro h
        obtain ⟨⟨hcheck, hsound⟩, ⟨-, hnew⟩, ⟨hfirst, hnodup⟩, hfound⟩ := h
        exact ⟨(), hcheck, hsound, fun s' hs' => ⟨fun heq => hfirst ⟨s', hs', heq⟩, hnew s' hs'⟩,
          hnodup, hfound⟩

/-- A list of schemas makes a registry if no two have one id and the registry is sound. -/
theorem ofSchemas_eq_ok_iff : ofSchemas l = .ok found ↔
    (l.map (·.id)).Nodup ∧ (ofList l).Sound ∧ found = ofList l := by
  unfold ofSchemas
  rw [bind_eq_ok_iff]
  simp only [addAll_eq_ok_iff, bind_eq_ok_iff]
  constructor
  · intro h
    obtain ⟨r, ⟨-, -, hnodup, rfl⟩, _, hsound, hfound⟩ := h
    cases hfound
    exact ⟨hnodup, check_eq_ok_iff.1 hsound, rfl⟩
  · intro h
    obtain ⟨hnodup, hsound, rfl⟩ := h
    have hschemas : ∀ s ∈ l, s.Sound := fun s hs =>
      hsound.schemas s.id s (get?_ofList_of_mem (List.pairwise_map.1 hnodup) hs)
    exact ⟨_, ⟨hschemas, fun _ _ => rfl, hnodup, rfl⟩, (), check_eq_ok_iff.2 hsound, rfl⟩

/-- If no two schemas have one id, a registry finds each of them under its own. -/
theorem get?_ofList_eq_some_iff (h : (l.map (·.id)).Nodup) :
    (ofList l).get? m = some s ↔ s ∈ l ∧ s.id = m := by
  refine ⟨mem_of_get?_ofList, fun hs => ?_⟩
  obtain ⟨hmem, rfl⟩ := hs
  exact get?_ofList_of_mem (List.pairwise_map.1 h) hmem

/-- If no two schemas have one id, their order does not matter. -/
theorem ofList_perm (hl : l.Perm l') (h : (l.map (·.id)).Nodup) : ofList l = ofList l' := by
  apply ext_get?
  intro m
  ext s
  rw [get?_ofList_eq_some_iff h, get?_ofList_eq_some_iff ((hl.map _).nodup_iff.1 h), hl.mem_iff]

/-- Whether schemas make a registry, and which one, does not depend on their order. -/
theorem ofSchemas_perm (hl : l.Perm l') : ofSchemas l = .ok found ↔ ofSchemas l' = .ok found := by
  rw [ofSchemas_eq_ok_iff, ofSchemas_eq_ok_iff, ← (hl.map _).nodup_iff]
  refine and_congr_right fun hnodup => ?_
  rw [ofList_perm hl hnodup]

/-- A text makes a registry if it is read as schemas that do. -/
theorem ofText_eq_ok_iff {text : String} : ofText text = .ok found ↔
    ∃ l, Json.readText schemasOfSource text = .ok l ∧ ofSchemas l = .ok found := by
  unfold ofText
  cases Json.readText schemasOfSource text <;> simp

/-- Exactly the sound registries make a converter. -/
theorem ofRegistry_eq_ok_iff {c : Converter} : Converter.ofRegistry r = .ok c ↔
    r.Sound ∧ c = { registry := r, handlers := .standard } := by
  unfold Converter.ofRegistry
  rw [bind_eq_ok_iff, ← check_eq_ok_iff]
  constructor
  · intro h
    obtain ⟨_, hcheck, hc⟩ := h
    cases hc
    exact ⟨hcheck, rfl⟩
  · intro h
    obtain ⟨hcheck, rfl⟩ := h
    exact ⟨(), hcheck, rfl⟩

/-- A registry makes a converter if its schemas pass their checks and each module stands above those
that it requires. -/
theorem ofRegistry_eq_ok_of_rank (rank : String → Nat)
    (hschemas : r.all.forM r.checkSchema = .ok ())
    (hrank : ∀ s ∈ r.all, ∀ p ∈ s.requires, rank p.module < rank s.id) :
    Converter.ofRegistry r = .ok { registry := r, handlers := .standard } :=
  ofRegistry_eq_ok_iff.2 ⟨check_eq_ok_iff.1 (check_eq_ok_of_rank rank hschemas hrank), rfl⟩

/-- A module that requires others and is sound by itself. -/
def requiring (id : String) (modules : List String) : Schema :=
  { id, resourceType := .file, attributes := .singleton "name" "name", states := ["there"],
    requires := modules.map fun m => ⟨m, ∅⟩ }

/-- Modules in which two ways lead from one module into a circle that the module is not part of. -/
def loopedSchemas : List Schema := [requiring "app" ["left", "right"], requiring "left" ["shared"],
  requiring "right" ["shared"], requiring "shared" ["tail"], requiring "tail" ["shared"]]

/-- The registry of these modules. -/
def looped : Registry := .ofList loopedSchemas

/-- The refusal names the circle and not the way to it. -/
theorem check_looped : looped.check = .error (.cycle ["shared", "tail", "shared"]) := by
  have hschemas : looped.all.forM looped.checkSchema = .ok () := by decide +kernel
  have hids : looped.ids = ["app", "left", "right", "shared", "tail"] := by decide +kernel
  have happ : looped.get? "app" = some (requiring "app" ["left", "right"]) := by decide +kernel
  have hleft : looped.get? "left" = some (requiring "left" ["shared"]) := by decide +kernel
  have hshared : looped.get? "shared" = some (requiring "shared" ["tail"]) := by decide +kernel
  have htail : looped.get? "tail" = some (requiring "tail" ["shared"]) := by decide +kernel
  unfold check
  rw [hschemas, hids]
  simp [visit_eq, visitAll, requiring, happ, hleft, hshared, htail, List.dropWhile]
  rfl

end Registry

end Provision
