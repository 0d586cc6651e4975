import Mathlib.Data.Option.Basic
import Provision.Conversion.Basic
import Provision.Proofs.Document.Closed

/-!
# What stands in an assembled map

`assemble` writes a step's own documents over its trigger documents over those of its prerequisites.
A tag is that of an own document (`get?_assemble_own`) or it keeps what the other two say
(`get?_assemble_of_not_mem`), and own documents refer to exactly the tags of the other two.
-/

namespace Provision

namespace Schema

variable {s : Schema} {r : Registry} {pm : PackageManager} {step t : String} {params : Parameters}
  {d : Document}

/-- A document under a trigger's tag is what one of the triggers makes. -/
theorem exists_trigger_of_get? (h : (s.triggerDocuments r pm step params).get? t = some d) :
    ∃ trigger ∈ s.triggers, trigger.document? r pm step params = some (t, d) :=
  List.mem_filterMap.1 (Table.mem_of_get?_ofList h)

end Schema

namespace Trigger

variable {trigger : Trigger} {r : Registry} {pm : PackageManager} {step t : String}
  {params : Parameters} {d : Document}

/-- What a trigger makes: a document of the triggered module in its first state, under the tag of a
trigger. -/
theorem document?_eq_some_iff : trigger.document? r pm step params = some (t, d) ↔
    ∃ s, r.get? trigger.module = some s ∧ s.runsWith pm = true ∧
      (trigger.attributesFor params).isEmpty = false ∧ t = tag trigger.module step s.defaultState ∧
      d = { resourceType := s.resourceType, state := s.defaultState,
            attributes := trigger.attributesFor params, scope := some .shared } := by
  unfold document?
  simp only [Option.bind_eq_bind, Option.bind_eq_some_iff, Option.guard_eq_some', Option.pure_def,
    Option.some.injEq, Prod.mk.injEq, Bool.not_eq_true']
  constructor
  · intro h
    obtain ⟨s, hs, -, hruns, -, hattributes, rfl, rfl⟩ := h
    exact ⟨s, hs, hruns, hattributes, rfl, rfl⟩
  · intro h
    obtain ⟨s, hs, hruns, hattributes, rfl, rfl⟩ := h
    exact ⟨s, hs, (), hruns, (), hattributes, rfl, rfl⟩

/-- Trigger documents refer to nothing. -/
theorem document?_edges (h : trigger.document? r pm step params = some (t, d)) : d.edges = [] := by
  obtain ⟨s, -, -, -, -, rfl⟩ := document?_eq_some_iff.1 h
  rfl

end Trigger

theorem Schema.triggerDocuments_edges {s : Schema} {r : Registry} {pm : PackageManager}
    {step t : String} {params : Parameters} {d : Document}
    (h : (s.triggerDocuments r pm step params).get? t = some d) : d.edges = [] := by
  obtain ⟨trigger, -, hd⟩ := exists_trigger_of_get? h
  exact Trigger.document?_edges hd

namespace Converter

variable {s : Schema} {step t : String} {requires triggers : DocumentMap} {buckets : Buckets}
  {d : Document}

/-- The tags of a step's own documents, one for each state. -/
def ownTags (s : Schema) (step : String) (buckets : Buckets) : List String :=
  buckets.entries.map fun entry => stepTag s.id step entry.1

/-- Under all other tags there is what prerequisites and triggers have made. -/
theorem get?_assemble_of_not_mem (h : t ∉ ownTags s step buckets) :
    (assemble s step requires triggers buckets).get? t = (requires.union triggers).get? t := by
  refine Table.get?_insertAll_of_forall_ne fun entry hentry ht => h ?_
  obtain ⟨bucket, hbucket, rfl⟩ := List.mem_map.1 hentry
  exact List.mem_map.2 ⟨bucket, hbucket, ht⟩

/-- Under the tag of an own document stands the own document of a state. -/
theorem get?_assemble_own (requires triggers : DocumentMap) (h : t ∈ ownTags s step buckets) :
    ∃ state attributes, buckets.get? state = some attributes ∧ t = stepTag s.id step state ∧
      (assemble s step requires triggers buckets).get? t =
        some (ownDocument s requires triggers state attributes) := by
  have hcontains : (assemble s step requires triggers buckets).contains t = true := by
    obtain ⟨bucket, hbucket, rfl⟩ := List.mem_map.1 h
    exact Table.contains_insertAll.2 (.inl ⟨_, List.mem_map.2 ⟨bucket, hbucket, rfl⟩, rfl⟩)
  obtain ⟨d, hd⟩ := Table.contains_iff.1 hcontains
  rcases Table.get?_insertAll_or hd with hmem | ⟨hne, -⟩
  · obtain ⟨⟨state, attributes⟩, hbucket, heq⟩ := List.mem_map.1 hmem
    cases heq
    exact ⟨state, attributes, Table.get?_eq_some_iff.2 hbucket, rfl, hd⟩
  · obtain ⟨bucket, hbucket, ht⟩ := List.mem_map.1 h
    exact absurd ht (hne _ (List.mem_map.2 ⟨bucket, hbucket, rfl⟩))

/-- The tags of an assembled map are those of its three parts. -/
theorem contains_assemble : (assemble s step requires triggers buckets).contains t = true ↔
    t ∈ ownTags s step buckets ∨ triggers.contains t = true ∨ requires.contains t = true := by
  unfold assemble ownTags
  rw [Table.contains_insertAll, Table.contains_union]
  simp only [List.mem_map, exists_exists_and_eq_and]

/-- The edges of an assembled map: own documents all have the same ones, trigger documents have
none, and the documents of prerequisites those that they had. -/
theorem refers_assemble {part : Document → List Edge} {l : List Edge} {u : String}
    (hown : ∀ state attributes, part (ownDocument s requires triggers state attributes) = l)
    (htriggers : ∀ t d, triggers.get? t = some d → part d = []) :
    (assemble s step requires triggers buckets).Refers part t u ↔
      (t ∈ ownTags s step buckets ∧ ∃ e ∈ l, e.tag = u) ∨
      (t ∉ ownTags s step buckets ∧ ¬ triggers.contains t = true ∧ requires.Refers part t u) := by
  by_cases ht : t ∈ ownTags s step buckets
  · obtain ⟨state, attributes, -, -, hd⟩ := get?_assemble_own requires triggers ht
    unfold DocumentMap.Refers
    simp [hd, hown, ht]
  · by_cases htrigger : triggers.contains t = true
    · obtain ⟨d, hd⟩ := Table.contains_iff.1 htrigger
      have hget : (assemble s step requires triggers buckets).get? t = some d := by
        rw [get?_assemble_of_not_mem ht, Table.get?_union, hd]
        rfl
      unfold DocumentMap.Refers
      simp [hget, htriggers t d hd, ht, htrigger]
    · have hrefers : (assemble s step requires triggers buckets).Refers part t u ↔
          DocumentMap.Refers part (requires.union triggers) t u := by
        unfold DocumentMap.Refers
        rw [get?_assemble_of_not_mem ht]
      rw [hrefers, DocumentMap.refers_union_of_not_contains htrigger]
      simp [ht, htrigger]

end Converter

end Provision
