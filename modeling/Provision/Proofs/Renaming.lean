import Mathlib.Data.List.Nodup
import Provision.Proofs.Results
import Provision.Proofs.Table
import Provision.Proofs.Value.Json
import Provision.Renaming

/-!
# Renaming and back

Renaming drops what a module does not recognize and what says nothing, and puts the rest under
backend keys; where no two parameters share a key, restoring finds every parameter again
(`restore_attributesOf`). The values go through a change of their own: a mapping becomes a list, and
a list that could be one becomes a mapping. Which values come back from that unchanged is read off
their shape (`Value.Returns`, `unlisted_listed_eq_iff`): a list does unless it looks like a mapping,
and a mapping does if it is not empty and its names without a value have the empty text.
-/

namespace Provision

namespace Value

variable {v : Value} {l : List Value} {m entries : List (String × Value)} {e : String × Value}

/-- Whether a value is a scalar: null and collections are none. -/
def isScalar : Value → Bool
  | .bool _ | .int _ | .float _ | .str _ => true
  | .null | .list _ | .map _ => false

theorem isNull_eq_true_iff : v.isNull = true ↔ v = .null := by
  cases v <;> simp [isNull]

theorem isNull_eq_false_iff : v.isNull = false ↔ v ≠ .null := by
  cases v <;> simp [isNull]

theorem isSome_toText? (v : Value) : v.toText?.isSome = v.isScalar := by
  cases v <;> rfl

/-- The name that an item of a list can stand for in a mapping: a text or a single pair has one. -/
def entryName? : Value → Option String
  | .str name => some name
  | .map [e] => some e.1
  | _ => none

/-- A value that becomes a list, or stays what it is, and comes back from that unchanged. -/
inductive Returns : Value → Prop
  | scalar {v : Value} (h : v.isScalar = true) : Returns v
  /-- A mapping that is not empty and has no value that says nothing but the empty text. -/
  | mapping {m : List (String × Value)} (hne : m ≠ [])
      (hfalsy : ∀ e ∈ m, e.2.isTruthy = false → e.2 = .str "") : Returns (.map m)
  | empty : Returns (.list [])
  /-- A list with an item that is neither a text nor a single pair. -/
  | other {l : List Value} {item : Value} (h : item ∈ l) (hname : item.entryName? = none) :
      Returns (.list l)
  /-- A list that has a name twice. -/
  | repeated {l : List Value} (h : ¬ (l.filterMap entryName?).Nodup) : Returns (.list l)

/-- A list comes back if it is empty, if an item of it is no entry, or if two items are entries of
one name. -/
theorem returns_list_iff : Returns (.list l) ↔
    l = [] ∨ (∃ item ∈ l, item.entryName? = none) ∨ ¬ (l.filterMap entryName?).Nodup := by
  constructor
  · intro h
    cases h with
    | scalar h => cases h
    | empty => exact .inl rfl
    | other h hname => exact .inr (.inl ⟨_, h, hname⟩)
    | repeated h => exact .inr (.inr h)
  · rintro (rfl | ⟨item, h, hname⟩ | h)
    · exact .empty
    · exact .other h hname
    · exact .repeated h

/-- A mapping comes back if it has something in it, and nothing falsy but the empty text. -/
theorem returns_map_iff :
    Returns (.map m) ↔ m ≠ [] ∧ ∀ e ∈ m, e.2.isTruthy = false → e.2 = .str "" := by
  constructor
  · intro h
    cases h with
    | scalar h => cases h
    | mapping hne hfalsy => exact ⟨hne, hfalsy⟩
  · intro h
    exact .mapping h.1 h.2

instance : (v : Value) → Decidable v.Returns
  | .null => .isFalse fun h => by
    cases h with
    | scalar h => cases h
  | .bool _ => .isTrue (.scalar rfl)
  | .int _ => .isTrue (.scalar rfl)
  | .float _ => .isTrue (.scalar rfl)
  | .str _ => .isTrue (.scalar rfl)
  | .list _ => decidable_of_iff' _ returns_list_iff
  | .map _ => decidable_of_iff' _ returns_map_iff

theorem map_fst_entry? : (v : Value) → v.entry?.map (·.1) = v.entryName?
  | .null | .bool _ | .int _ | .float _ | .str _ | .list _
  | .map [] | .map [_] | .map (_ :: _ :: _) => rfl

/-! ## Lists -/

/-- Items that all have a name are entries of these names. -/
theorem names_of_mapM_eq_some (h : l.mapM entry? = some entries) :
    entries.map (·.1) = l.filterMap entryName? ∧ entries.length = l.length := by
  rw [mapM_eq_some_iff_forall₂] at h
  induction h with
  | nil => exact ⟨rfl, rfl⟩
  | cons hentry _ ih =>
    obtain ⟨hnames, hlength⟩ := ih
    rw [List.filterMap_cons, ← map_fst_entry?, hentry, List.map_cons, hnames, List.length_cons,
      List.length_cons, hlength]
    exact ⟨rfl, rfl⟩

/-- A list with an item that is no entry stays a list. -/
theorem unlisted_of_mapM_eq_none (h : l.mapM entry? = none) :
    (Value.list l).unlisted = .list l := by
  unfold unlisted
  split
  · next heq =>
    cases heq
    rfl
  · next items _ heq =>
    cases heq
    rw [h]
  · next hother => exact absurd rfl (hother l)

/-- Items that all have a name become a mapping if no name comes twice. -/
theorem unlisted_of_mapM_eq_some (hne : l ≠ []) (h : l.mapM entry? = some entries) :
    (Value.list l).unlisted =
      if (entries.map (·.1)).Nodup then .ofTable (.ofList entries) else .list l := by
  obtain ⟨-, hlength⟩ := names_of_mapM_eq_some h
  have hsize := Table.size_ofList_eq_length_iff (l := entries)
  rw [hlength] at hsize
  obtain ⟨v, l, rfl⟩ := List.exists_cons_of_ne_nil hne
  unfold unlisted
  dsimp only
  rw [h]
  exact if_congr hsize rfl rfl

/-- A list stays a list unless it looks like a mapping. -/
theorem unlisted_list_eq_iff : (Value.list l).unlisted = .list l ↔ Returns (.list l) := by
  rw [returns_list_iff]
  cases h : l.mapM entry? with
  | none =>
    obtain ⟨item, hitem, hnone⟩ := mapM_eq_none_iff.1 h
    refine iff_of_true (unlisted_of_mapM_eq_none h) (.inr (.inl ⟨item, hitem, ?_⟩))
    rw [← map_fst_entry?, hnone]
    rfl
  | some entries =>
    have hnames : ¬ ∃ item ∈ l, item.entryName? = none := by
      simp only [← map_fst_entry?, Option.map_eq_none_iff, ← mapM_eq_none_iff, h, reduceCtorEq,
        not_false_eq_true]
    by_cases hne : l = []
    · subst hne
      exact iff_of_true rfl (.inl rfl)
    · rw [unlisted_of_mapM_eq_some hne h, (names_of_mapM_eq_some h).1]
      split
      · next hnodup => simp [ofTable, hne, hnames, hnodup]
      · next hrepeated => simp [hrepeated]

/-! ## Mappings -/

/-- A mapping's entry after it was an item of a list: a value that says nothing is the empty
text. -/
def plainEntry (e : String × Value) : String × Value := if e.2.isTruthy then e else (e.1, .str "")

theorem entry?_ofEntry (e : String × Value) : entry? (ofEntry e) = some (plainEntry e) := by
  unfold ofEntry plainEntry
  split <;> rfl

theorem plainEntry_fst (e : String × Value) : (plainEntry e).1 = e.1 := by
  unfold plainEntry
  split <;> rfl

/-- A pair becomes itself unless its value is falsy and not the empty text. -/
theorem plainEntry_eq_self_iff : plainEntry e = e ↔ (e.2.isTruthy = false → e.2 = .str "") := by
  unfold plainEntry
  cases h : e.2.isTruthy with
  | true => simp
  | false => simp [Prod.ext_iff, eq_comm]

/-- A mapping comes back as one, unless it is empty. -/
theorem unlisted_map_ofEntry (hne : m ≠ []) (hsorted : m.Pairwise fun a b => Text.Before a.1 b.1) :
    (Value.list (m.map ofEntry)).unlisted = .map (m.map plainEntry) := by
  have hentries : (m.map ofEntry).mapM entry? = some (m.map plainEntry) := by
    rw [mapM_eq_some_iff_forall₂, List.forall₂_map_left_iff, List.forall₂_map_right_iff,
      List.forall₂_same]
    exact fun e _ => entry?_ofEntry e
  have hplain : (m.map plainEntry).Pairwise fun a b => Text.Before a.1 b.1 := by
    rw [List.pairwise_map]
    simpa only [plainEntry_fst] using hsorted
  have hnodup : ((m.map plainEntry).map (·.1)).Nodup :=
    Table.nodup_keys (t := ⟨m.map plainEntry, hplain⟩)
  rw [unlisted_of_mapM_eq_some (fun h => hne (List.map_eq_nil_iff.1 h)) hentries, if_pos hnodup,
    ofTable, Table.entries_ofList hplain]

/-- A mapping that is listed and made a mapping again is the same exactly if it returns. -/
theorem unlisted_listed_map_eq_iff (hsorted : m.Pairwise fun a b => Text.Before a.1 b.1) :
    (Value.map m).listed.unlisted = .map m ↔ Returns (.map m) := by
  rw [returns_map_iff]
  by_cases hne : m = []
  · subst hne
    exact iff_of_false (by simp [listed, unlisted]) fun h => h.1 rfl
  · have hself : m.map plainEntry = m ↔ ∀ e ∈ m, plainEntry e = e := by
      simpa using List.map_inj_left (l := m) (f := plainEntry) (g := id)
    have hback : (Value.map m).listed.unlisted = .map (m.map plainEntry) :=
      unlisted_map_ofEntry hne hsorted
    rw [hback, Value.map.injEq, hself]
    simp only [plainEntry_eq_self_iff, hne, ne_eq, not_false_eq_true, true_and]

/-- A value that says something comes back unchanged exactly if its shape lets it. -/
theorem unlisted_listed_eq_iff (hnull : v ≠ .null) (hordered : v.Ordered) :
    v.listed.unlisted = v ↔ v.Returns := by
  cases v with
  | null => exact absurd rfl hnull
  | bool _ => exact iff_of_true rfl (.scalar rfl)
  | int _ => exact iff_of_true rfl (.scalar rfl)
  | float _ => exact iff_of_true rfl (.scalar rfl)
  | str _ => exact iff_of_true rfl (.scalar rfl)
  | list l => exact unlisted_list_eq_iff
  | map m => exact unlisted_listed_map_eq_iff hordered.1

end Value

namespace Schema

variable {s : Schema} {params : Parameters} {raw key : String} {a : Attributes} {w : Value}

/-- The parameters that the module recognizes and that say something. -/
def recognized (s : Schema) (params : Parameters) : Parameters :=
  params.filter fun k v => s.attributes.contains k && !v.isNull

/-- The recognized parameters are those that the module declares and that are not null. -/
theorem get?_recognized_eq_some_iff {v : Value} : (s.recognized params).get? raw = some v ↔
    s.attributes.contains raw = true ∧ params.get? raw = some v ∧ v ≠ .null := by
  unfold recognized
  rw [Table.get?_filter, Option.filter_eq_some_iff]
  simp only [Bool.and_eq_true, Bool.not_eq_true', Value.isNull_eq_false_iff]
  exact and_left_comm

/-- What is not recognized or says nothing is not renamed. -/
theorem attributesOf_recognized (s : Schema) (params : Parameters) :
    s.attributesOf (s.recognized params) = s.attributesOf params := by
  unfold attributesOf recognized Table.filter
  rw [List.filterMap_filter]
  congr 1
  refine List.filterMap_congr fun e _ => ?_
  unfold renameEntry backendKey? Table.contains
  cases hnull : e.2.isNull with
  | true => simp
  | false => cases hkey : s.attributes.get? e.1 <;> simp [hnull, hkey]

/-- If no backend key comes twice, a key leads back to the parameter that it belongs to. -/
theorem rawKey?_eq_some_iff (hs : s.attributes.values.Nodup) :
    s.rawKey? key = some raw ↔ s.backendKey? raw = some key := by
  have hvalues : ∀ e ∈ s.attributes.entries, ∀ e' ∈ s.attributes.entries, e.2 = e'.2 → e = e' :=
    fun _ he _ he' heq => List.inj_on_of_nodup_map hs he he' heq
  unfold rawKey? backendKey?
  rw [Table.get?_eq_some_iff]
  cases hfind : s.attributes.entries.find? (·.2 == key) with
  | none =>
    have hmissing : (raw, key) ∉ s.attributes.entries := fun hmem => by
      simpa using List.find?_eq_none.1 hfind _ hmem
    simpa using hmissing
  | some e =>
    have hmem := List.mem_of_find?_eq_some hfind
    have hkey : e.2 = key := by simpa using List.find?_some hfind
    rw [Option.map_some, Option.some_inj]
    constructor
    · intro hraw
      rwa [← hraw, ← hkey]
    · intro hentry
      rw [hvalues e hmem _ hentry hkey]

/-- A parameter is renamed if it is not null and the module has a key for it. -/
theorem renameEntry_eq_some_iff {e p : String × Value} : s.renameEntry e = some p ↔
    e.2.isNull = false ∧ s.backendKey? e.1 = some p.1 ∧ e.2.listed = p.2 := by
  unfold renameEntry
  cases e.2.isNull <;> simp [Option.map_eq_some_iff, Prod.ext_iff]

/-- An attribute is restored under the parameter that has its key. -/
theorem restoreEntry_eq_some_iff {e p : String × Value} : s.restoreEntry e = some p ↔
    s.rawKey? e.1 = some p.1 ∧ e.2.unlisted = p.2 := by
  unfold restoreEntry
  simp [Option.map_eq_some_iff, Prod.ext_iff]

/-- Under a key stands the value of the parameter that the key belongs to. -/
theorem get?_attributesOf (hs : s.attributes.values.Nodup) :
    (s.attributesOf params).get? key = some w ↔
    ∃ raw v, s.backendKey? raw = some key ∧ (s.recognized params).get? raw = some v ∧
      v.listed = w := by
  have hdistinct : (params.entries.filterMap s.renameEntry).Pairwise fun a b => a.1 ≠ b.1 := by
    refine List.Pairwise.filterMap _ (fun e e' hne p hp p' hp' heq => hne ?_) Table.pairwise_ne
    obtain ⟨-, hkey, -⟩ := renameEntry_eq_some_iff.1 hp
    obtain ⟨-, hkey', -⟩ := renameEntry_eq_some_iff.1 hp'
    rw [heq, ← rawKey?_eq_some_iff hs] at hkey
    rw [← rawKey?_eq_some_iff hs, hkey] at hkey'
    exact Option.some.inj hkey'
  unfold attributesOf
  rw [Table.get?_ofList_eq_some_iff hdistinct, List.mem_filterMap]
  simp only [Prod.exists, renameEntry_eq_some_iff, get?_recognized_eq_some_iff,
    ← Table.get?_eq_some_iff]
  refine exists_congr fun raw => exists_congr fun v => ?_
  constructor
  · intro h
    obtain ⟨hget, hnull, hkey, hlisted⟩ := h
    refine ⟨hkey, ⟨Table.contains_of_get? hkey, hget, fun h => ?_⟩, hlisted⟩
    rw [h] at hnull
    cases hnull
  · intro h
    obtain ⟨hkey, ⟨-, hget, hnull⟩, hlisted⟩ := h
    exact ⟨hget, Value.isNull_eq_false_iff.2 hnull, hkey, hlisted⟩

/-- If no two parameters have one key, each is restored from the attribute of its own. -/
theorem get?_restore (hs : s.attributes.values.Nodup) : (s.restore a).get? raw = some w ↔
    ∃ key v, s.backendKey? raw = some key ∧ a.get? key = some v ∧ v.unlisted = w := by
  have hdistinct : (a.entries.filterMap s.restoreEntry).Pairwise fun a b => a.1 ≠ b.1 := by
    refine List.Pairwise.filterMap _ (fun e e' hne p hp p' hp' heq => hne ?_) Table.pairwise_ne
    obtain ⟨hraw, -⟩ := restoreEntry_eq_some_iff.1 hp
    obtain ⟨hraw', -⟩ := restoreEntry_eq_some_iff.1 hp'
    rw [heq, rawKey?_eq_some_iff hs] at hraw
    rw [rawKey?_eq_some_iff hs, hraw] at hraw'
    exact Option.some.inj hraw'
  unfold restore
  rw [Table.get?_ofList_eq_some_iff hdistinct, List.mem_filterMap]
  simp only [Prod.exists, restoreEntry_eq_some_iff, rawKey?_eq_some_iff hs,
    ← Table.get?_eq_some_iff]
  exact exists_congr fun key => exists_congr fun v => and_left_comm

/-- Renaming and restoring finds every recognized parameter again, with the value that comes
back. -/
theorem restore_attributesOf (hs : s.attributes.values.Nodup) :
    s.restore (s.attributesOf params) = (s.recognized params).map fun v => v.listed.unlisted := by
  apply Table.ext_get?
  intro raw
  ext w
  rw [get?_restore hs, Table.get?_map, Option.map_eq_some_iff]
  simp only [get?_attributesOf hs]
  constructor
  · intro h
    obtain ⟨key, _, hkey, ⟨raw', v, hkey', hv, rfl⟩, hw⟩ := h
    rw [← rawKey?_eq_some_iff hs] at hkey hkey'
    rw [hkey] at hkey'
    cases hkey'
    exact ⟨v, hv, hw⟩
  · intro h
    obtain ⟨v, hv, hw⟩ := h
    obtain ⟨key, hkey⟩ := Table.contains_iff.1 (get?_recognized_eq_some_iff.1 hv).1
    exact ⟨key, _, hkey, ⟨raw, v, hkey, hv, rfl⟩, hw⟩

/-- Nothing is renamed exactly if nothing that says something is recognized. -/
theorem isEmpty_attributesOf_iff : (s.attributesOf params).isEmpty = true ↔
    ∀ raw v, params.get? raw = some v → s.attributes.contains raw = true → v = .null := by
  have hentry : ∀ e : String × Value,
      s.renameEntry e = none ↔ (s.attributes.contains e.1 = true → e.2 = .null) := by
    intro e
    unfold renameEntry backendKey? Table.contains
    cases hnull : e.2.isNull with
    | true => simp [Value.isNull_eq_true_iff.1 hnull]
    | false => cases s.attributes.get? e.1 <;> simp [Value.isNull_eq_false_iff.1 hnull]
  unfold attributesOf
  rw [Table.isEmpty_ofList_iff, List.filterMap_eq_nil_iff]
  simp only [hentry, Prod.forall, ← Table.get?_eq_some_iff]

theorem rename_eq (s : Schema) (params : Parameters) : s.rename params =
    if (s.attributesOf params).isEmpty then .error (.emptyMapping s.id)
    else .ok (s.attributesOf params) := rfl

theorem attributesOf_of_rename (h : s.rename params = .ok a) : s.attributesOf params = a := by
  rw [rename_eq] at h
  split at h
  · cases h
  · exact Except.ok.inj h

/-- Renaming fails exactly if no parameter with a value is recognized. Otherwise restoring gives the
recognized parameters that have a value, and gives each its value exactly if the value's shape lets
it. -/
theorem restore_rename_exact (s : Schema) (params : Parameters) :
    ((∃ e, s.rename params = .error e) ↔
      ∀ raw v, params.get? raw = some v → s.attributes.contains raw = true → v = .null) ∧
    (s.attributes.values.Nodup → ∀ a, s.rename params = .ok a →
      (∀ raw, (s.restore a).contains raw = true ↔
        s.attributes.contains raw = true ∧ ∃ v, params.get? raw = some v ∧ v ≠ .null) ∧
      ((∀ v ∈ params.values, v.Ordered) →
        (s.restore a = s.recognized params ↔
          ∀ raw v, (s.recognized params).get? raw = some v → v.Returns))) := by
  refine ⟨?fails, fun hs a ha => ?_⟩
  case fails =>
    rw [← isEmpty_attributesOf_iff, rename_eq]
    split
    · next hempty => exact iff_of_true ⟨_, rfl⟩ hempty
    · next hempty => exact iff_of_false (fun ⟨_, he⟩ => by cases he) hempty
  have hrestore : s.restore a = (s.recognized params).map fun v => v.listed.unlisted := by
    rw [← attributesOf_of_rename ha]
    exact restore_attributesOf hs
  rw [hrestore]
  refine ⟨fun raw => ?_, fun hordered => ?_⟩
  · simp only [Table.contains_map, Table.contains_iff, get?_recognized_eq_some_iff, exists_and_left]
  · rw [Table.map_eq_self_iff]
    refine forall_congr' fun raw => forall_congr' fun v => imp_congr_right fun hv => ?_
    obtain ⟨-, hget, hnull⟩ := get?_recognized_eq_some_iff.1 hv
    exact Value.unlisted_listed_eq_iff hnull (hordered v (Table.mem_values.2 ⟨raw, hget⟩))

/-- A module of packages, which can come from a repository. -/
def packagesSchema : Schema :=
  { id := "packages", resourceType := .pkg,
    attributes := .ofList [("name", "pkgs"), ("repo", "fromrepo")],
    states := ["installed", "removed"] }

/-- Packages as a mapping, and a parameter that the module does not know. -/
def mappedPackages : Parameters :=
  .ofList [("colour", .str "blue"), ("name", .map [("htop", .str "removed"), ("nginx", .str "")]),
    ("repo", .str "main")]

/-- Packages as a list that looks like a mapping. -/
def listedPackages : Parameters := .singleton "name" (.strings ["git", "vim"])

/-- The mapping comes back, and the list does not. -/
theorem packagesSchema_restored :
    (∃ a, packagesSchema.rename mappedPackages = .ok a ∧
      packagesSchema.restore a = packagesSchema.recognized mappedPackages) ∧
    ∃ a, packagesSchema.rename listedPackages = .ok a ∧
      packagesSchema.restore a ≠ packagesSchema.recognized listedPackages := by
  have hdistinct : packagesSchema.attributes.values.Nodup := by decide +kernel
  obtain ⟨a, ha⟩ := exists_eq_ok_of_isOk
    (show (packagesSchema.rename mappedPackages).isOk = true by decide +kernel)
  obtain ⟨b, hb⟩ := exists_eq_ok_of_isOk
    (show (packagesSchema.rename listedPackages).isOk = true by decide +kernel)
  obtain ⟨-, hmapped⟩ := (restore_rename_exact packagesSchema mappedPackages).2 hdistinct a ha
  obtain ⟨-, hlisted⟩ := (restore_rename_exact packagesSchema listedPackages).2 hdistinct b hb
  refine ⟨⟨a, ha, (hmapped (by decide +kernel)).2 fun raw v hv => ?_⟩, b, hb, fun hback => ?_⟩
  · have hall : ∀ e ∈ (packagesSchema.recognized mappedPackages).entries, e.2.Returns := by
      decide +kernel
    exact hall _ (Table.get?_eq_some_iff.1 hv)
  · have hname : (packagesSchema.recognized listedPackages).get? "name" =
        some (.strings ["git", "vim"]) := by
      decide +kernel
    exact absurd ((hlisted (by decide +kernel)).1 hback "name" _ hname) (by decide +kernel)

end Schema

end Provision
