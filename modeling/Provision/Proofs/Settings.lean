import Provision.Proofs.Json.Record
import Provision.Settings

/-!
# Settings are read as they were saved

What is saved of settings is read as these settings, with or without a platform and a registry. So a
settings file that holds saved settings can be loaded (`Settings.load_eq_ok`).
-/

namespace Provision.Settings

variable {s : Settings} {files : Files} {path : String}

/-- The members that are written, if they are there. -/
def members (s : Settings) : List (String × Option Json) :=
  [("platform", s.platform.map fun p => .str (Named.name p)), ("registry", s.registry.map .str),
    ("pretty", some (.bool s.pretty))]

theorem nodup_names (s : Settings) : (s.members.map (·.1)).Nodup :=
  (by decide : ["platform", "registry", "pretty"].Nodup)

theorem toJson_eq (s : Settings) : s.toJson = .obj (Json.present s.members) := by
  unfold toJson members
  cases s.platform <;> cases s.registry <;> rfl

/-- Settings are read as they were written, be they set or left out. -/
theorem ofSource_toJson (s : Settings) : ofSource (.ofJson s.toJson) = .ok s := by
  have hrecord : Json.record ["platform", "registry", "pretty"] (.ofJson s.toJson) =
      .ok (Json.membersOf s.members) := by
    rw [toJson_eq]
    exact Json.record_present s.nodup_names
  have hplatform : Json.optional (Json.membersOf s.members) "platform"
      (Json.nullable (Json.named Platform)) none =
      .ok s.platform :=
    Json.optional_nullable s.nodup_names (.head _) fun p =>
      congrArg (Except.map some) (Json.named_ofJson p)
  have hregistry : Json.optional (Json.membersOf s.members) "registry"
      (Json.nullable Json.text) none =
      .ok s.registry :=
    Json.optional_nullable s.nodup_names (.tail _ (.head _)) fun _ => rfl
  have hpretty : Json.optional (Json.membersOf s.members) "pretty" Json.flag false = .ok s.pretty :=
    Json.optional_of_some s.nodup_names (.tail _ (.tail _ (.head _))) rfl
  unfold ofSource
  simp only [hrecord, ok_bind, hplatform, hregistry, hpretty]
  rfl

theorem readable_toJson (s : Settings) : Json.Readable 1 s.toJson := by
  rw [toJson_eq]
  apply Json.Readable.present
  simp only [members, List.forall_mem_cons]
  refine ⟨?_, ?_, ?_, by simp⟩ <;> intro j hj
  · obtain ⟨p, -, rfl⟩ := Option.map_eq_some_iff.1 hj
    exact .str _
  · obtain ⟨path, -, rfl⟩ := Option.map_eq_some_iff.1 hj
    exact .str _
  · cases hj
    exact .bool _

/-- Saved settings are loaded from their file. -/
theorem load_eq_ok (h : files.read path = .ok s.toText) : load files path = .ok s := by
  have hread : Json.readText ofSource s.toText = .ok s := by
    rw [toText, Json.readText_pretty (s.readable_toJson.mono (by decide)), ofSource_toJson]
  unfold load
  simp only [h, hread]

end Provision.Settings
