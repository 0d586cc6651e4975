import Provision.Handler.Standard
import Provision.Proofs.Handler.Frame
import Provision.Proofs.Registry.Standard
import Provision.Proofs.Renaming

/-!
# What is supplied for paths and volumes

A directory that is applied recursively lists which of user, group and mode to apply below itself,
and these are the ones that were supplied (`given`), before the owner has a default. But the mode is
made an integer first, and of all values that are set only texts stand for zero, which is not set
(`Value.toInt?_eq_zero_iff`): a mode of `0000` is supplied and not listed (`recurse_exact`).

The devices of a volume are joined to one text. What has no text is left out without a fault, be it
an item of a list or a name with something behind it in a mapping, so the text lists all devices
exactly if every item is a scalar (`devices_exact`).
-/

namespace Provision

/-! ## Integers -/

/-- A number beyond the range is nearest to one of its ends, which are not zero. -/
theorem Word.nearest_eq_zero_iff {n : Int} : Word.nearest n = 0 ↔ n = 0 := by
  have hmin : Int64.minValue.toInt = -2 ^ 63 := by decide
  have hmax : Int64.maxValue.toInt = 2 ^ 63 - 1 := by decide
  unfold Word.nearest
  rw [hmin, hmax]
  split
  · exact iff_of_false (by decide) (by omega)
  · split
    · exact iff_of_false (by decide) (by omega)
    · rw [← Int64.toInt_inj, Int64.toInt_ofInt_of_le (by omega) (by omega), Int64.toInt_zero]

/-- A float that becomes the integer zero is zero. -/
theorem Binary64.isZero_of_toInt? {x : Binary64} (h : x.toInt? = some 0) : x.isZero = true := by
  -- the sign is of no matter for zero
  have hmagnitude : ∀ m : Nat, (if x.isNegative then -(m : Int) else m) = 0 → m = 0 := by
    intro m hm
    split at hm <;> omega
  unfold isZero
  rw [beq_iff_eq]
  obtain ⟨m, hm, hzero⟩ := Option.map_eq_some_iff.1 h
  cases hmagnitude m hzero
  split at hm
  · have hproduct : x.mantissa * Nat.pow 2 x.exponent.toNat = 0 := Option.some.inj hm
    exact (Nat.mul_eq_zero.1 hproduct).resolve_right
      (Nat.pos_iff_ne_zero.1 (Nat.pow_pos Nat.two_pos))
  · dsimp only at hm
    split at hm
    · next hmod =>
      rw [← Nat.div_add_mod x.mantissa (Nat.pow 2 (-x.exponent).toNat), hmod, Option.some.inj hm,
        Nat.mul_zero]
    · cases hm

/-- Of the values that are set, only a text can stand for zero. -/
theorem Value.toInt?_eq_zero_iff {v : Value} (h : v.isTruthy = true) :
    v.toInt? = some 0 ↔ v.text?.bind Value.parseInt? = some 0 := by
  cases v with
  | null => cases h
  | bool b =>
    cases b
    · cases h
    · decide
  | int n =>
    have hne : n ≠ 0 := by simpa [isTruthy] using h
    simp [toInt?, text?, hne]
  | float x =>
    refine iff_of_false (fun hzero => ?_) (by simp [text?])
    obtain ⟨n, hn, hnearest⟩ := Option.map_eq_some_iff.1 hzero
    rw [Word.nearest_eq_zero_iff.1 hnearest] at hn
    simp [isTruthy, Binary64.isZero_of_toInt? hn] at h
  | str s => rfl
  | list l => simp [toInt?, text?]
  | map l => simp [toInt?, text?]

/-! ## Paths -/

namespace Attributes

variable {s : Schema} {a b : Attributes} {key : String} {cause : Value → BuildFault}

/-- An attribute that was made an integer is still set, unless it was a text that stands for
zero. -/
theorem isSet_coerceInt (h : coerceInt s a key cause = .ok b) :
    isSet b key = (isSet a key && !((text? a key).bind Value.parseInt? == some 0)) := by
  unfold coerceInt at h
  cases hget : a.get? key with
  | none =>
    simp only [hget, Option.filter_none] at h
    cases h
    simp [isSet, hget]
  | some v =>
    cases htruthy : v.isTruthy with
    | false =>
      simp only [hget, htruthy, Option.filter_some] at h
      cases h
      simp [isSet, hget, htruthy]
    | true =>
      simp only [hget, htruthy, Option.filter_some, if_true] at h
      have hzero := Value.toInt?_eq_zero_iff htruthy
      cases hint : v.toInt? with
      | none =>
        simp only [hint] at h
        cases h
      | some n =>
        simp only [hint] at h
        cases h
        -- it was set before, and is still set unless the integer is zero
        rw [hint, Option.some_inj] at hzero
        unfold isSet text?
        rw [Table.get?_insert_self, hget, Option.map_some, Option.map_some, Option.getD_some,
          Option.getD_some, htruthy, Option.bind_some, Bool.true_and, Bool.eq_iff_iff]
        simp [Value.isTruthy, hzero]

end Attributes

namespace Handler

open Attributes

variable {s : Schema} {a b : Attributes} {keys : List String} {buckets : Buckets}

/-- What was supplied of what a recursive directory can apply below itself. -/
def given (a : Attributes) : List String := ["user", "group", "mode"].filter (isSet a)

/-- The mode is a text that stands for zero. -/
def zeroMode (a : Attributes) : Bool := (text? a "mode").bind Value.parseInt? == some 0

/-- What a recursive directory lists: what was supplied, but not a mode that stands for zero. -/
def listed (a : Attributes) : List String := (given a).filter fun k => !(k == "mode" && zeroMode a)

/-- What is listed goes by user, group and mode alone. -/
theorem listed_congr (h : SameBut keys a b) (hkeys : ∀ k ∈ ["user", "group", "mode"], k ∉ keys) :
    listed b = listed a := by
  have hgiven : given b = given a := List.filter_congr fun k hk => h.isSet (hkeys k hk)
  unfold listed zeroMode text?
  rw [hgiven, h "mode" (hkeys "mode" (by decide))]

/-- Making the mode an integer takes it from what is given if it stands for zero. -/
theorem given_withMode (h : withMode s a = .ok b) : given b = listed a := by
  have hsame : SameBut ["mode"] a b := (SameBut.refl _ a).of_coerceInt (by decide) h
  unfold given listed given
  rw [List.filter_filter]
  refine List.filter_congr fun k _ => ?_
  by_cases hk : k = "mode"
  · subst hk
    rw [isSet_coerceInt h, Bool.and_comm]
    simp [zeroMode]
  · rw [hsame.isSet (by simpa using hk)]
    simp [hk]

/-- The mode is supplied if it is a text that stands for zero, as the empty text stands for
nothing. -/
theorem mode_mem_given (h : zeroMode a = true) : "mode" ∈ given a := by
  refine List.mem_filter.2 ⟨by decide, ?_⟩
  unfold zeroMode text? at h
  unfold isSet
  cases hget : a.get? "mode" with
  | none => simp [hget] at h
  | some v =>
    cases v with
    | str text =>
      have hne : text ≠ "" := by
        rintro rfl
        rw [hget] at h
        exact absurd h (by decide)
      simpa [Value.isTruthy] using hne
    | _ => simp [hget, Value.text?] at h

/-- What is listed is what was given, unless the mode is zero. -/
theorem listed_eq_given_iff : listed a = given a ↔ zeroMode a = false := by
  unfold listed
  rw [List.filter_eq_self]
  constructor
  · intro h
    by_contra hzero
    rw [Bool.not_eq_false] at hzero
    simpa [hzero] using h "mode" (mode_mem_given hzero)
  · intro h k _
    simp [h]

theorem strings_inj {l l' : List String} : Value.strings l = .strings l' ↔ l = l' := by
  unfold Value.strings
  rw [Value.list.injEq]
  exact (List.map_injective_iff.2 fun _ _ => Value.str.inj).eq_iff

/-- A recursive path with its list, and with an owner if it had none. -/
theorem path_recurse (habsent : isSet a "absent" = false) (hrecurse : isSet a "recurse" = true)
    (h : path s a = .ok buckets) :
    ∃ own, buckets = s.defaultBuckets own ∧ own.get? "recurse" = some (.strings (listed a)) ∧
      (a.get? "user" = none → own.get? "user" = some (.str "root")) := by
  unfold path at h
  dsimp only at h
  rw [if_neg (ne_true_of_eq_false habsent)] at h
  obtain ⟨rest, hrest, h⟩ := bind_eq_ok_iff.1 h
  cases h
  have herase : SameBut ["absent", "mode"] a (a.erase "absent") :=
    (SameBut.refl _ a).erase (by decide)
  have hsame : SameBut ["absent", "mode"] a rest := herase.of_coerceInt (by decide) hrest
  have hgiven : given rest = listed a :=
    (given_withMode hrest).trans (listed_congr ((SameBut.refl ["absent"] a).erase (by decide))
      (by decide))
  have hlist : withRecurse rest = rest.insert "recurse" (.strings (listed a)) := by
    unfold withRecurse
    rw [if_pos ((hsame.isSet (by decide)).trans hrecurse), ← hgiven]
    rfl
  refine ⟨_, rfl, ?_, fun huser => ?_⟩
  · -- the owner comes after the list and is another attribute
    rw [hlist]
    unfold withOwner
    split
    · exact Table.get?_insert_self
    · rw [Table.get?_insert_of_ne (by decide)]
      exact Table.get?_insert_self
  · have hnone : (withRecurse rest).contains "user" = false := by
      unfold Table.contains
      rw [hlist, Table.get?_insert_of_ne (by decide), hsame "user" (by decide), huser]
      rfl
    unfold withOwner
    rw [hnone]
    exact Table.get?_insert_self

/-- A recursive path lists exactly what was supplied of user, group and mode, unless the mode is a
text that stands for zero, which is left out. The owner that is there by default is never listed. -/
theorem recurse_exact {handler : Handler} (hhandler : handler = path ∨ handler = directory)
    (habsent : isSet a "absent" = false) (hrecurse : isSet a "recurse" = true)
    (h : handler s a = .ok buckets) :
    ∃ own, buckets = s.defaultBuckets own ∧ own.get? "recurse" = some (.strings (listed a)) ∧
      (own.get? "recurse" = some (.strings (given a)) ↔ zeroMode a = false) ∧
      (a.get? "user" = none → own.get? "user" = some (.str "root") ∧ "user" ∉ listed a) := by
  obtain ⟨own, hown, hlist, huser⟩ : ∃ own, buckets = s.defaultBuckets own ∧
      own.get? "recurse" = some (.strings (listed a)) ∧
      (a.get? "user" = none → own.get? "user" = some (.str "root")) := by
    rcases hhandler with rfl | rfl
    · exact path_recurse habsent hrecurse h
    · have hmade : SameBut ["makedirs"] a (a.insert "makedirs" (.bool true)) :=
        (SameBut.refl _ a).insert (by decide)
      have hpath := path_recurse ((hmade.isSet (by decide)).trans habsent)
        ((hmade.isSet (by decide)).trans hrecurse) h
      rwa [listed_congr hmade (by decide), hmade "user" (by decide)] at hpath
  refine ⟨own, hown, hlist, ?_, fun hnone => ⟨huser hnone, fun hmem => ?_⟩⟩
  · rw [hlist, Option.some_inj, strings_inj, listed_eq_given_iff]
  · have hset : isSet a "user" = true := (List.mem_filter.1 (List.mem_filter.1 hmem).1).2
    simp [isSet, hnone] at hset

/-- A module of directories. -/
def directorySchema : Schema :=
  { id := "linux.dir", resourceType := .file, states := ["directory", "absent"],
    attributes :=
      .ofList [("path", "name"), ("group", "group"), ("mode", "mode"), ("recursive", "recurse")] }

/-- A directory that nobody may enter, and nothing below it. -/
def closedDirectory : Attributes :=
  .ofList [("name", .str "/srv"), ("group", .str "web"), ("mode", .str "0000"),
    ("recurse", .bool true)]

/-- The mode is supplied, but only the group is listed. -/
theorem closedDirectory_unlisted : ∃ own,
    directory directorySchema closedDirectory = .ok (directorySchema.defaultBuckets own) ∧
      given closedDirectory = ["group", "mode"] ∧ own.get? "recurse" = some (.strings ["group"]) ∧
      own.get? "recurse" ≠ some (.strings (given closedDirectory)) := by
  obtain ⟨buckets, hbuckets⟩ := exists_eq_ok_of_isOk
    (show (directory directorySchema closedDirectory).isOk = true by decide +kernel)
  obtain ⟨own, rfl, hlist, hiff, -⟩ :=
    recurse_exact (.inr rfl) (by decide +kernel) (by decide +kernel) hbuckets
  have hlisted : listed closedDirectory = ["group"] := by decide +kernel
  have hzero : ¬ zeroMode closedDirectory = false := by decide +kernel
  exact ⟨own, hbuckets, by decide +kernel, hlisted ▸ hlist, fun h => hzero (hiff.1 h)⟩

/-! ## Volumes -/

variable {items : List Value} {key text : String}

/-- A text joins values: there is one text for each of them, in their order, with commas between. -/
def Joins (items : List Value) (text : String) : Prop :=
  ∃ texts, List.Forall₂ (fun v t => v.toText? = some t) items texts ∧ text = ",".intercalate texts

theorem filterMap_toText?_of_forall₂ {texts : List String}
    (h : List.Forall₂ (fun v t => v.toText? = some t) items texts) :
    items.filterMap Value.toText? = texts := by
  induction h with
  | nil => rfl
  | cons ht _ ih => rw [List.filterMap_cons_some ht, ih]

/-- With what has no text left out, all is there exactly if there is nothing to leave out. -/
theorem joins_filterMap_iff :
    Joins items (",".intercalate (items.filterMap Value.toText?)) ↔
      ∀ v ∈ items, v.isScalar = true := by
  constructor
  · intro h v hv
    obtain ⟨texts, htexts, -⟩ := h
    by_contra hscalar
    rw [← Value.isSome_toText?, Option.not_isSome_iff_eq_none] at hscalar
    have hnone : items.mapM Value.toText? = none := mapM_eq_none_iff.2 ⟨v, hv, hscalar⟩
    rw [mapM_eq_some_iff_forall₂.2 htexts] at hnone
    cases hnone
  · intro h
    cases hm : items.mapM Value.toText? with
    | none =>
      obtain ⟨v, hv, hnone⟩ := mapM_eq_none_iff.1 hm
      have hscalar := h v hv
      rw [← Value.isSome_toText?, hnone] at hscalar
      cases hscalar
    | some texts =>
      have htexts := mapM_eq_some_iff_forall₂.1 hm
      exact ⟨texts, htexts, by rw [filterMap_toText?_of_forall₂ htexts]⟩

/-- A name of a mapping is a scalar on the list if nothing stands behind it. -/
theorem isScalar_ofEntry (e : String × Value) : (Value.ofEntry e).isScalar = !e.2.isTruthy := by
  unfold Value.ofEntry
  cases e.2.isTruthy <;> rfl

/-- Of a list the items with a text are joined by commas. -/
theorem get?_joinDevices_self (h : a.get? key = some (.list items)) :
    (joinDevices a key).get? key = some
      (.str (",".intercalate (items.filterMap Value.toText?))) := by
  unfold joinDevices
  rw [h]
  exact Table.get?_insert_self

/-- Either list of devices is joined, whatever becomes of the other one. -/
theorem volume_joins (hkey : key = "devices" ∨ key = "pv") (h : a.get? key = some (.list items)) :
    ∃ own, volume s a = .ok (s.defaultBuckets own) ∧
      own.get? key = some (.str (",".intercalate (items.filterMap Value.toText?))) := by
  refine ⟨_, rfl, ?_⟩
  have hdevices : SameBut ["devices"] a (joinDevices a "devices") :=
    sameBut_joinDevices (SameBut.refl _ a) (by decide)
  have hpv : SameBut ["pv"] (joinDevices a "devices")
      (joinDevices (joinDevices a "devices") "pv") :=
    sameBut_joinDevices (SameBut.refl _ _) (by decide)
  rcases hkey with rfl | rfl
  · exact (hpv "devices" (by decide)).trans (get?_joinDevices_self h)
  · exact get?_joinDevices_self ((hdevices "pv" (by decide)).trans h)

/-- The modules of volumes, with the attribute that their devices go under. -/
def volumeModules : List (String × String) := [("linux.lvm.vg", "devices"), ("linux.lvm.lv", "pv")]

/-- The modules of volumes have a parameter `path`, which goes under the key in the table. -/
theorem backendKey?_of_volumeModules (hmodule : (s.id, key) ∈ volumeModules)
    (hs : s ∈ standardSchemas) :
    s.backendKey? "path" = some key ∧ s.attributes.values.Nodup := by
  have hall : ∀ s ∈ standardSchemas, ∀ e ∈ volumeModules, s.id = e.1 →
      s.backendKey? "path" = some e.2 ∧ s.attributes.values.Nodup := by
    decide +kernel
  exact hall s hs _ hmodule rfl

/-- Volumes given as a list or as a mapping are always built, and their devices are joined to the
texts of those items of the mapped list that have one. That text joins all items exactly if every
one of them is a scalar, which for a mapping means that nothing stands behind a name. -/
theorem devices_exact {module : String} {params : Parameters} {v : Value}
    (hmodule : (module, key) ∈ volumeModules) (hs : Registry.standard.get? module = some s)
    (hv : params.get? "path" = some v) (hitems : v.listed = .list items) :
    ∃ attributes own text, s.rename params = .ok attributes ∧
      attributes.get? key = some (.list items) ∧
      HandlerTable.standard.build s attributes = .ok (s.defaultBuckets own) ∧
      own.get? key = some (.str text) ∧ text = ",".intercalate (items.filterMap Value.toText?) ∧
      (Joins items text ↔ ∀ item ∈ items, item.isScalar = true) ∧
      ∀ l, v = .map l → (Joins items text ↔ ∀ e ∈ l, e.2.isTruthy = false) := by
  -- renaming hands the devices on under the key that the module's table has for them
  obtain ⟨hmem, rfl⟩ := Registry.mem_of_get?_ofList hs
  obtain ⟨hkey, hnodup⟩ := backendKey?_of_volumeModules hmodule hmem
  have hnull : v ≠ .null := by
    rintro rfl
    cases hitems
  have hget : (s.attributesOf params).get? key = some (.list items) :=
    (Schema.get?_attributesOf hnodup).2 ⟨"path", v, hkey,
      Schema.get?_recognized_eq_some_iff.2 ⟨Table.contains_of_get? hkey, hv, hnull⟩, hitems⟩
  have hrename : s.rename params = .ok (s.attributesOf params) := by
    rw [Schema.rename_eq, if_neg (Bool.eq_false_iff.1 (Table.isEmpty_of_get? hget))]
  have hhandler : HandlerTable.standard.get? s.id = some volume ∧
      (key = "devices" ∨ key = "pv") := by
    simp only [volumeModules, List.mem_cons, List.not_mem_nil, or_false, Prod.mk.injEq] at hmodule
    rcases hmodule with ⟨hid, rfl⟩ | ⟨hid, rfl⟩
    · exact ⟨hid ▸ rfl, .inl rfl⟩
    · exact ⟨hid ▸ rfl, .inr rfl⟩
  obtain ⟨own, hvolume, hown⟩ := volume_joins (s := s) hhandler.2 hget
  refine ⟨_, own, _, hrename, hget, build_eq_ok hhandler.1 hvolume rfl, hown, rfl,
    joins_filterMap_iff, ?_⟩
  rintro l rfl
  cases hitems
  rw [joins_filterMap_iff, List.forall_mem_map]
  simp only [isScalar_ofEntry, Bool.not_eq_true']

/-- Parameters of a volume group with two devices, one of which has something behind it. -/
def groupParameters : Parameters :=
  .ofList [("name", .str "vg0"), ("path", .map [("/dev/sdb", .str ""), ("/dev/sdc", .str "ssd")])]

/-- The device that has something behind it is not there. -/
theorem groupParameters_not_joined : ∃ s attributes own items,
    Registry.standard.get? "linux.lvm.vg" = some s ∧ s.rename groupParameters = .ok attributes ∧
      attributes.get? "devices" = some (.list items) ∧ items.length = 2 ∧
      HandlerTable.standard.build s attributes = .ok (s.defaultBuckets own) ∧
      own.get? "devices" = some (.str "/dev/sdb") ∧ ¬ Joins items "/dev/sdb" := by
  obtain ⟨s, hs⟩ := Option.isSome_iff_exists.1
    (show (Registry.standard.get? "linux.lvm.vg").isSome = true by decide +kernel)
  have hpath : groupParameters.get? "path"
      = some (.map [("/dev/sdb", .str ""), ("/dev/sdc", .str "ssd")]) := by
    decide +kernel
  obtain ⟨attributes, own, text, hrename, hget, hbuild, hown, htext, -, hmapping⟩ :=
    devices_exact (List.mem_cons_self ..) hs hpath rfl
  have hone : text = "/dev/sdb" := htext.trans (by decide +kernel)
  subst hone
  refine ⟨s, attributes, own, _, hs, hrename, hget, rfl, hbuild, hown, fun hjoins => ?_⟩
  have hfalsy := (hmapping _ rfl).1 hjoins ("/dev/sdc", .str "ssd") (by simp)
  exact absurd hfalsy (by decide)

end Handler

end Provision
