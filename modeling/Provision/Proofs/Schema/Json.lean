import Provision.Proofs.Json.Record
import Provision.Schema.Json

/-!
# Schemas are read as they were written

What is written for a schema is read as that schema (`Schema.ofSource_toJson`): its members have
names of their own, and what is left out is what the reader takes for a member that is not there.
How deep its tree is depends on the values in its prerequisites (`Schema.readable_toJson`).
-/

namespace Provision

namespace Prerequisite

variable {p : Prerequisite}

/-- The members that are written. -/
def members (p : Prerequisite) : List (String × Option Json) :=
  [("module", some (.str p.module)), ("parameters", some (p.parameters.toJson Value.toJson))]

theorem nodup_names (p : Prerequisite) : (p.members.map (·.1)).Nodup :=
  (by decide : ["module", "parameters"].Nodup)

/-- A prerequisite is read as it was written, if its parameters are in order. -/
theorem ofSource_toJson (h : ∀ v ∈ p.parameters.values, v.Ordered) :
    ofSource (.ofJson p.toJson) = .ok p := by
  have hvalues : ∀ e ∈ p.parameters.entries, Json.value (.ofJson e.2.toJson) = .ok e.2 := by
    intro e he
    rw [Json.value_ofJson, Value.ofJson_toJson (h e.2 (List.mem_map.2 ⟨e, he, rfl⟩))]
  have hrecord : Json.record ["module", "parameters"] (.ofJson p.toJson) =
      .ok (Json.membersOf p.members) :=
    Json.record_present p.nodup_names
  have hmodule : Json.required (Json.membersOf p.members) "module" Json.text = .ok p.module :=
    Json.required_membersOf p.nodup_names (.head _) rfl
  have hparameters : Json.optional (Json.membersOf p.members) "parameters" Json.valueTable ∅ =
      .ok p.parameters :=
    Json.optional_of_some p.nodup_names (.tail _ (.head _)) (Json.tableOf_ofJson hvalues)
  unfold ofSource
  simp only [hrecord, ok_bind, hmodule, hparameters]
  rfl

theorem readable_toJson {n : Nat} (h : ∀ v ∈ p.parameters.values, Json.Readable n v.toJson) :
    Json.Readable (n + 2) p.toJson := by
  apply Json.Readable.obj
  simp only [List.forall_mem_cons]
  exact ⟨.str _, .table h, by simp⟩

end Prerequisite

namespace TriggerAttribute

/-- The members that are written. -/
def members (a : TriggerAttribute) : List (String × Option Json) :=
  [("source", some (.str a.source)), ("target", some (.str a.target))]

theorem nodup_names (a : TriggerAttribute) : (a.members.map (·.1)).Nodup :=
  (by decide : ["source", "target"].Nodup)

/-- An attribute of a trigger is read as it was written. -/
theorem ofSource_toJson (a : TriggerAttribute) : ofSource (.ofJson a.toJson) = .ok a := by
  have hrecord : Json.record ["source", "target"] (.ofJson a.toJson) =
      .ok (Json.membersOf a.members) :=
    Json.record_present a.nodup_names
  have hsource : Json.required (Json.membersOf a.members) "source" Json.text = .ok a.source :=
    Json.required_membersOf a.nodup_names (.head _) rfl
  have htarget : Json.required (Json.membersOf a.members) "target" Json.text = .ok a.target :=
    Json.required_membersOf a.nodup_names (.tail _ (.head _)) rfl
  unfold ofSource
  simp only [hrecord, ok_bind, hsource, htarget]
  rfl

theorem readable_toJson (a : TriggerAttribute) : Json.Readable 1 a.toJson := by
  apply Json.Readable.obj
  simp only [List.forall_mem_cons]
  exact ⟨.str _, .str _, by simp⟩

end TriggerAttribute

namespace Trigger

/-- The members that are written. -/
def members (t : Trigger) : List (String × Option Json) :=
  [("module", some (.str t.module)),
    ("attributes", some (.arr (t.attributes.map TriggerAttribute.toJson)))]

theorem nodup_names (t : Trigger) : (t.members.map (·.1)).Nodup :=
  (by decide : ["module", "attributes"].Nodup)

/-- So is a trigger. -/
theorem ofSource_toJson (t : Trigger) : ofSource (.ofJson t.toJson) = .ok t := by
  have hrecord : Json.record ["module", "attributes"] (.ofJson t.toJson) =
      .ok (Json.membersOf t.members) :=
    Json.record_present t.nodup_names
  have hmodule : Json.required (Json.membersOf t.members) "module" Json.text = .ok t.module :=
    Json.required_membersOf t.nodup_names (.head _) rfl
  have hattributes : Json.required (Json.membersOf t.members) "attributes"
      (Json.listOf TriggerAttribute.ofSource) =
      .ok t.attributes :=
    Json.required_membersOf t.nodup_names (.tail _ (.head _))
      (Json.listOf_ofJson fun a _ => a.ofSource_toJson)
  unfold ofSource
  simp only [hrecord, ok_bind, hmodule, hattributes]
  rfl

theorem readable_toJson (t : Trigger) : Json.Readable 3 t.toJson := by
  apply Json.Readable.obj
  simp only [List.forall_mem_cons]
  exact ⟨.str _, .items fun a _ => a.readable_toJson, by simp⟩

end Trigger

namespace Schema

variable {s : Schema}

/-- The members that are written, if they are there. -/
def members (s : Schema) : List (String × Option Json) :=
  [("id", some (.str s.id)), ("type", some (.str (Named.name s.resourceType))),
    ("attributes", some (s.attributes.toJson .str)), ("states", some (.strings s.states)),
    ("package_manager", s.packageManager.map fun pm => .str (Named.name pm)),
    ("require", if s.requires.isEmpty then
      none else some (.arr (s.requires.map Prerequisite.toJson))),
    ("require_in", if s.triggers.isEmpty then
      none else some (.arr (s.triggers.map Trigger.toJson)))]

theorem nodup_names (s : Schema) : (s.members.map (·.1)).Nodup :=
  (by decide :
    ["id", "type", "attributes", "states", "package_manager", "require", "require_in"].Nodup)

theorem toJson_eq (s : Schema) : s.toJson = .obj (Json.present s.members) := by
  unfold toJson optionalMembers members
  cases s.packageManager <;> cases s.requires.isEmpty <;> cases s.triggers.isEmpty <;> rfl

/-- A schema is read as it was written. -/
theorem ofSource_toJson (h : ∀ p ∈ s.requires, ∀ v ∈ p.parameters.values, v.Ordered) :
    ofSource (.ofJson s.toJson) = .ok s := by
  have hrecord : Json.record
      ["id", "type", "attributes", "states", "package_manager", "require", "require_in"]
      (.ofJson s.toJson) = .ok (Json.membersOf s.members) := by
    rw [toJson_eq]
    exact Json.record_present s.nodup_names
  have hid : Json.required (Json.membersOf s.members) "id" Json.text = .ok s.id :=
    Json.required_membersOf s.nodup_names (.head _) rfl
  have htype : Json.required (Json.membersOf s.members) "type" (Json.named ResourceType) =
      .ok s.resourceType :=
    Json.required_membersOf s.nodup_names (.tail _ (.head _)) (Json.named_ofJson _)
  have hattributes : Json.required (Json.membersOf s.members) "attributes"
      (Json.tableOf Json.text) =
      .ok s.attributes :=
    Json.required_membersOf s.nodup_names (.tail _ (.tail _ (.head _)))
      (Json.tableOf_ofJson fun _ _ => rfl)
  have hstates : Json.required (Json.membersOf s.members) "states" (Json.listOf Json.text) =
      .ok s.states :=
    Json.required_membersOf s.nodup_names (.tail _ (.tail _ (.tail _ (.head _))))
      (Json.listOf_ofJson fun _ _ => rfl)
  have hpackageManager : Json.optional (Json.membersOf s.members) "package_manager"
      (Json.nullable (Json.named PackageManager)) none = .ok s.packageManager :=
    Json.optional_nullable s.nodup_names (.tail _ (.tail _ (.tail _ (.tail _ (.head _)))))
      fun pm => congrArg (Except.map some) (Json.named_ofJson pm)
  have hrequires : Json.optional (Json.membersOf s.members) "require"
      (Json.listOf Prerequisite.ofSource) [] =
      .ok s.requires :=
    Json.optional_listOf s.nodup_names (by simp [members]) fun p hp =>
      Prerequisite.ofSource_toJson (h p hp)
  have htriggers : Json.optional (Json.membersOf s.members) "require_in"
      (Json.listOf Trigger.ofSource) [] =
      .ok s.triggers :=
    Json.optional_listOf s.nodup_names (by simp [members]) fun t _ => t.ofSource_toJson
  unfold ofSource
  simp only [hrecord, ok_bind, hid, htype, hattributes, hstates, hpackageManager, hrequires,
    htriggers]
  rfl

/-- The values in the prerequisites stand inside four containers of the schema. -/
theorem readable_toJson {n : Nat}
    (h : ∀ p ∈ s.requires, ∀ v ∈ p.parameters.values, Json.Readable (n + 1) v.toJson) :
    Json.Readable (n + 5) s.toJson := by
  have hattributes : Json.Readable 1 (s.attributes.toJson .str) := .table fun _ _ => .str _
  have hstates : Json.Readable 1 (.strings s.states) := .items fun _ _ => .str _
  have hrequires : Json.Readable (n + 4) (.arr (s.requires.map Prerequisite.toJson)) :=
    .items fun p hp => Prerequisite.readable_toJson (h p hp)
  have htriggers : Json.Readable (n + 4) (.arr (s.triggers.map Trigger.toJson)) :=
    .items fun t _ => t.readable_toJson.mono (by omega)
  rw [toJson_eq]
  apply Json.Readable.present
  simp only [members, List.forall_mem_cons]
  refine ⟨?_, ?_, ?_, ?_, ?_, ?_, ?_, by simp⟩ <;> intro j hj
  · cases hj
    exact .str _
  · cases hj
    exact .str _
  · cases hj
    exact hattributes.mono (by omega)
  · cases hj
    exact hstates.mono (by omega)
  · obtain ⟨pm, -, rfl⟩ := Option.map_eq_some_iff.1 hj
    exact .str _
  · split at hj
    · cases hj
    · cases hj
      exact hrequires
  · split at hj
    · cases hj
    · cases hj
      exact htriggers

end Schema

end Provision
