import Provision.Proofs.Handler.States

/-!
# What handlers leave alone

A handler works on some attributes of its own and hands all others on. `Attributes.SameBut` says so
of two sets of attributes, some keys aside: every step of a handler keeps it if the step's key is
among them, and so does a handler as a whole, for each of its buckets (`Framed`). Which keys are a
module's own is one table (`ownKeys`). Only a path that is to be absent is different: nothing but
its name is handed on, so nothing else can make a difference (`build_standard_frame`).
-/

namespace Provision

namespace Attributes

variable {s : Schema} {keys : List String} {k : String} {v : Value} {a b own : Attributes}
  {cause : Value → BuildFault}

/-- The second attributes are the first ones, some keys aside. -/
def SameBut (keys : List String) (a b : Attributes) : Prop := ∀ k, k ∉ keys → b.get? k = a.get? k

theorem SameBut.refl (keys : List String) (a : Attributes) : SameBut keys a a := fun _ _ => rfl

theorem SameBut.insert (h : SameBut keys a b) (hk : k ∈ keys) : SameBut keys a (b.insert k v) := by
  intro j hj
  have hne : j ≠ k := fun heq => hj (heq ▸ hk)
  rw [Table.get?_insert_of_ne hne]
  exact h j hj

theorem SameBut.erase (h : SameBut keys a b) (hk : k ∈ keys) : SameBut keys a (b.erase k) := by
  intro j hj
  have hne : j ≠ k := fun heq => hj (heq ▸ hk)
  rw [Table.get?_erase_of_ne hne]
  exact h j hj

/-- An integer in place of a text changes one attribute, or there is a fault of the module. -/
theorem SameBut.coerceInt (h : SameBut keys a b) (hk : k ∈ keys) (cause : Value → BuildFault) :
    s.Gives (SameBut keys a) (Attributes.coerceInt s b k cause) := by
  unfold Attributes.coerceInt
  split
  · exact h
  · split
    · exact h.insert hk
    · exact ⟨_, rfl⟩

/-- Whether another attribute is set is not touched by it. -/
theorem SameBut.isSet (h : SameBut keys a b) (hk : k ∉ keys) :
    Attributes.isSet b k = Attributes.isSet a k := by
  unfold Attributes.isSet
  rw [h k hk]

theorem SameBut.of_coerceInt (h : SameBut keys a b) (hk : k ∈ keys)
    (hown : Attributes.coerceInt s b k cause = .ok own) : SameBut keys a own := by
  have hgives := h.coerceInt (s := s) hk cause
  rwa [hown] at hgives

end Attributes

open Schema Attributes

/-- The attributes of every bucket are the ones there were, some keys aside. -/
def Framed (keys : List String) (a : Attributes) (buckets : Buckets) : Prop :=
  ∀ state own, buckets.get? state = some own → SameBut keys a own

namespace Handler

variable {s : Schema} {keys : List String} {k : String} {a b : Attributes}

/-- The bucket of the default state has the attributes as the handler leaves them. -/
theorem framed_defaultBuckets (h : SameBut keys a b) : Framed keys a (s.defaultBuckets b) := by
  intro state own hown
  unfold Schema.defaultBuckets Table.singleton at hown
  rw [Table.get?_insert] at hown
  split at hown
  · cases hown
    exact h
  · cases hown

/-- Of the packages only the list differs from bucket to bucket. -/
theorem packages_framed (key : String) (style : PinStyle) (s : Schema) (a : Attributes) :
    s.Gives (Framed [key] a) (packages key style s a) := by
  have hkey : key ∈ [key] := List.mem_singleton_self _
  refine gives_packageEntries.bind fun entries _ => ?_
  refine (Gives.mapM fun entry _ => gives_placeEntry entry).bind fun placed _ => ?_
  intro state own hown
  rw [Table.get?_map] at hown
  obtain ⟨items, -, rfl⟩ := Option.map_eq_some_iff.1 hown
  exact ((SameBut.refl _ a).erase hkey).insert hkey

/-! ## Sources and keys -/

theorem sameBut_trimTarget (h : SameBut keys a b) (hkey : "target" ∈ keys) :
    SameBut keys a (trimTarget b) := by
  unfold trimTarget
  split
  · exact h.insert hkey
  · exact h

/-- A branch is moved to the revision or stays, which touches these two. -/
theorem sameBut_branchAsRevision (h : SameBut keys a b) (hbranch : "branch" ∈ keys)
    (hrev : "rev" ∈ keys) :
    SameBut keys a (branchAsRevision s b) := by
  unfold branchAsRevision
  split
  · exact h
  · split
    · exact (h.erase hbranch).insert hrev
    · exact h.erase hbranch

theorem sameBut_forceCheckout (h : SameBut keys a b) (hkey : "force_checkout" ∈ keys) :
    SameBut keys a (forceCheckout s b) := by
  unfold forceCheckout
  split
  · exact h.insert hkey
  · exact h

theorem sourceControl_framed (s : Schema) (a : Attributes) :
    s.Gives (Framed ["target", "branch", "rev", "force_checkout"] a) (sourceControl s a) := by
  have htarget :=
    sameBut_trimTarget (SameBut.refl ["target", "branch", "rev", "force_checkout"] a) (by decide)
  have hbranch := sameBut_branchAsRevision (s := s) htarget (by decide) (by decide)
  exact framed_defaultBuckets (sameBut_forceCheckout hbranch (by decide))

theorem repositoryFile_framed (s : Schema) (a : Attributes) :
    s.Gives (Framed ["name"] a) (repositoryFile s a) := by
  unfold repositoryFile
  split
  · exact ⟨_, rfl⟩
  · split
    · exact framed_defaultBuckets ((SameBut.refl _ a).insert (by decide))
    · exact framed_defaultBuckets (SameBut.refl _ a)

theorem gemSource_framed (s : Schema) (a : Attributes) :
    s.Gives (Framed ["name", "shell", "user", "group"] a) (gemSource s a) := by
  unfold gemSource
  split
  · exact ⟨_, rfl⟩
  · refine framed_defaultBuckets
      (.insert (.insert (.insert (.insert (SameBut.refl _ a) ?_) ?_) ?_) ?_)
    all_goals decide

/-- The keys of an ssh module: only an authorized key has its name replaced by what its content
lists. -/
def sshKeys (t : ResourceType) : List String :=
  if t = .sshAuth then ["enc", "name", "names"] else ["enc"]

/-- An authorized key touches its names and its encryption, a known host the latter alone. -/
theorem sshKey_framed (s : Schema) (a : Attributes) :
    s.Gives (Framed (sshKeys s.resourceType) a) (sshKey s a) := by
  have henc : "enc" ∈ sshKeys s.resourceType := by
    unfold sshKeys
    split <;> decide
  unfold sshKey
  dsimp only
  split
  · next content hauth _ =>
    have hkeys : sshKeys s.resourceType = ["enc", "name", "names"] := if_pos hauth
    rw [hkeys] at henc ⊢
    refine framed_defaultBuckets (SameBut.erase (SameBut.insert ?_ (by decide)) (by decide))
    split
    · exact (SameBut.refl _ a).insert henc
    · exact SameBut.refl _ a
  · refine framed_defaultBuckets ?_
    split
    · exact (SameBut.refl _ a).insert henc
    · exact SameBut.refl _ a

/-! ## The host -/

theorem sameBut_withRecurse (h : SameBut keys a b) (hkey : "recurse" ∈ keys) :
    SameBut keys a (withRecurse b) := by
  unfold withRecurse
  split
  · exact h.insert hkey
  · exact h.erase hkey

theorem sameBut_withOwner (h : SameBut keys a b) (hkey : "user" ∈ keys) :
    SameBut keys a (withOwner b) := by
  unfold withOwner
  split
  · exact h
  · exact h.insert hkey

/-- A path that is not to be absent. The keys can be more than its own, as those of a directory
are. -/
theorem path_framed (hpresent : isSet b "absent" = false)
    (hkeys : ∀ k ∈ ["absent", "mode", "recurse", "user"], k ∈ keys) (h : SameBut keys a b) :
    s.Gives (Framed keys a) (path s b) := by
  simp only [List.forall_mem_cons] at hkeys
  obtain ⟨habsent, hmode, hrecurse, huser, -⟩ := hkeys
  unfold path
  dsimp only
  rw [if_neg (ne_true_of_eq_false hpresent)]
  refine ((h.erase habsent).coerceInt hmode _).bind fun rest hrest => ?_
  exact framed_defaultBuckets (sameBut_withOwner (sameBut_withRecurse hrest hrecurse) huser)

theorem directory_framed (hpresent : isSet a "absent" = false) :
    s.Gives (Framed ["absent", "mode", "recurse", "user", "makedirs"] a) (directory s a) :=
  path_framed (isSet_insert_makedirs.trans hpresent) (by decide)
    ((SameBut.refl _ a).insert (by decide))

theorem sameBut_withGuard (h : SameBut keys a b) (hk : k ∈ keys) :
    SameBut keys a (withGuard b k) := by
  unfold withGuard
  split
  · exact h.insert hk
  · exact h

theorem command_framed (s : Schema) (a : Attributes) :
    s.Gives (Framed ["onlyif", "unless", "timeout"] a) (command s a) := by
  have honlyif :=
    sameBut_withGuard (k := "onlyif") (SameBut.refl ["onlyif", "unless", "timeout"] a) (by decide)
  have hunless := sameBut_withGuard (k := "unless") honlyif (by decide)
  exact (hunless.coerceInt (by decide) _).bind fun _ h => framed_defaultBuckets h

theorem account_framed (s : Schema) (a : Attributes) :
    s.Gives (Framed ["uid", "gid", "nologin", "shell"] a) (account s a) := by
  refine ((SameBut.refl ["uid", "gid", "nologin", "shell"] a).coerceInt (by decide) _).bind
    fun b hb => ?_
  refine (hb.coerceInt (by decide) _).bind fun b hb => ?_
  have hrest := hb.erase (k := "nologin") (by decide)
  refine framed_defaultBuckets ?_
  split
  · exact hrest.insert (by decide)
  · exact hrest

theorem sameBut_asInt (h : SameBut keys a b) (hk : k ∈ keys) : SameBut keys a (asInt b k) := by
  unfold asInt
  split
  · exact h.insert hk
  · exact h

theorem mount_framed (s : Schema) (a : Attributes) :
    s.Gives (Framed ["dump", "pass_num"] a) (mount s a) := by
  have hdump := sameBut_asInt (k := "dump") (SameBut.refl ["dump", "pass_num"] a) (by decide)
  exact framed_defaultBuckets (sameBut_asInt hdump (by decide))

theorem sameBut_joinDevices (h : SameBut keys a b) (hk : k ∈ keys) :
    SameBut keys a (joinDevices b k) := by
  unfold joinDevices
  split
  · exact h.insert hk
  · exact h

theorem volume_framed (s : Schema) (a : Attributes) :
    s.Gives (Framed ["devices", "pv"] a) (volume s a) := by
  have hdevices :=
    sameBut_joinDevices (k := "devices") (SameBut.refl ["devices", "pv"] a) (by decide)
  exact framed_defaultBuckets (sameBut_joinDevices hdevices (by decide))

end Handler

/-! ## The table -/

/-- The keys that the handler of a standard module may change; a module without a handler has
none. -/
def ownKeys (module : String) (t : ResourceType) : List String :=
  match module with
  | "linux.apt.package" | "linux.yum.package" => ["pkgs"]
  | "common.npm.package" | "common.pip.package" | "common.gem.package" => ["names"]
  | "common.git" | "common.svn" | "common.hg" => ["target", "branch", "rev", "force_checkout"]
  | "linux.apt.repo" | "linux.yum.repo" => ["name"]
  | "common.gem.source" => ["name", "shell", "user", "group"]
  | "common.ssh.auth" | "common.ssh.known_host" => Handler.sshKeys t
  | "linux.dir" => ["absent", "mode", "recurse", "user", "makedirs"]
  | "linux.file" | "linux.symlink" => ["absent", "mode", "recurse", "user"]
  | "linux.cmd" => ["onlyif", "unless", "timeout"]
  | "linux.user" | "linux.group" => ["uid", "gid", "nologin", "shell"]
  | "linux.mount" => ["dump", "pass_num"]
  | "linux.lvm.vg" | "linux.lvm.lv" => ["devices", "pv"]
  | _ => []

/-- A module's handler changes the module's own keys only, unless it has a path to remove. -/
def Handler.Frames (handler : Handler) (module : String) : Prop :=
  ∀ (s : Schema) (a : Attributes), (module ∈ pathModules → isSet a "absent" = false) →
    s.Gives (Framed (ownKeys module s.resourceType) a) (handler s a)

namespace HandlerTable

variable {s : Schema} {a a' : Attributes} {buckets : Buckets}

open Handler in
/-- Each standard handler touches the attributes in the table and no others. -/
theorem standard_frames {module : String} {handler : Handler}
    (h : standard.get? module = some handler) :
    handler.Frames module := by
  have hall : ∀ l : List (String × Handler), (∀ e ∈ l, e.2.Frames e.1) →
      (Table.ofList l).get? module = some handler → handler.Frames module :=
    fun l hl hget => hl _ (Table.mem_of_get?_ofList hget)
  refine hall _ ?_ h
  simp only [List.forall_mem_cons]
  exact ⟨fun s a _ => packages_framed _ _ s a, fun s a _ => packages_framed _ _ s a,
    fun s a _ => packages_framed _ _ s a, fun s a _ => packages_framed _ _ s a,
    fun s a _ => packages_framed _ _ s a, fun s a _ => sourceControl_framed s a,
    fun s a _ => sourceControl_framed s a, fun s a _ => sourceControl_framed s a,
    fun s a _ => repositoryFile_framed s a, fun s a _ => repositoryFile_framed s a,
    fun s a _ => gemSource_framed s a, fun s a _ => sshKey_framed s a,
    fun s a _ => sshKey_framed s a,
    fun _ _ h => directory_framed (h (by decide)),
    fun s a h => path_framed (h (by decide)) (fun _ hk => hk) (SameBut.refl _ a),
    fun s a h => path_framed (h (by decide)) (fun _ hk => hk) (SameBut.refl _ a),
    fun s a _ => command_framed s a, fun s a _ => account_framed s a,
    fun s a _ => account_framed s a, fun s a _ => mount_framed s a,
    fun s a _ => volume_framed s a, fun s a _ => volume_framed s a, by simp⟩

/-- Unless a path is to be removed, building changes the module's own keys only. -/
theorem framed_of_build (hkept : ¬ s.Removes a) (h : standard.build s a = .ok buckets) :
    Framed (ownKeys s.id s.resourceType) a buckets := by
  cases hget : standard.get? s.id with
  | some handler =>
    have hgives :=
      standard_frames hget s a fun hmodule => Bool.eq_false_iff.2 fun habsent =>
        hkept ⟨hmodule, habsent⟩
    rw [handler_eq_ok_of_build hget h] at hgives
    exact hgives
  | none =>
    unfold build at h
    rw [hget] at h
    cases h
    exact Handler.framed_defaultBuckets (SameBut.refl _ a)

/-- What a module is built with has every attribute that is not the module's own as it was given, in
every bucket. A path that is to be absent is the exception: its name is all that is left, and all
that makes a difference. -/
theorem build_standard_frame (s : Schema) :
    (∀ a buckets, standard.build s a = .ok buckets → buckets.isEmpty = false ∧
      (¬ s.Removes a → ∀ state own, buckets.get? state = some own →
        ∀ k, k ∉ ownKeys s.id s.resourceType → own.get? k = a.get? k) ∧
      (s.Removes a → ∃ name, a.get? "name" = some name ∧
        buckets = .singleton "absent" (.singleton "name" name))) ∧
    ∀ a a', s.Removes a → s.Removes a' → a'.get? "name" = a.get? "name" →
      standard.build s a' = standard.build s a := by
  refine ⟨fun a buckets h => ⟨?_, fun hkept => framed_of_build hkept h, fun hremoves =>
    buckets_of_removes hremoves h⟩, fun a a' hremoves hremoves' hname => ?_⟩
  · have hgives := build_standard s a
    rw [h] at hgives
    exact hgives.1
  · rw [build_of_removes hremoves, build_of_removes hremoves', Handler.removed,
      Handler.removed, hname]

/-- A module of files. -/
def filesSchema : Schema :=
  { id := "linux.file", resourceType := .file,
    attributes := .ofList [("path", "name"), ("mode", "mode")], states := ["managed", "absent"] }

/-- A file with an attribute that no handler knows of. -/
def labelledFile : Attributes :=
  .ofList [("context", .str "web"), ("mode", .str "0644"), ("name", .str "/srv/a")]

/-- A file that is to be absent, with a mode that is none. -/
def oddFile : Attributes :=
  .ofList [("absent", .bool true), ("mode", .str "rwx"), ("name", .str "/srv/a")]

/-- The label is kept, and of the odd file only the name counts. -/
theorem filesSchema_frame :
    (∃ buckets own, standard.build filesSchema labelledFile = .ok buckets ∧
      buckets.get? "managed" = some own ∧ own.get? "context" = some (.str "web")) ∧
    standard.build filesSchema oddFile
      = standard.build filesSchema (.ofList [("absent", .int 1), ("name", .str "/srv/a")]) := by
  obtain ⟨hbuild, hsame⟩ := build_standard_frame filesSchema
  refine ⟨?_, hsame _ _ (by decide +kernel) (by decide +kernel) (by decide +kernel)⟩
  have hmanaged : (standard.build filesSchema labelledFile).toOption.any (·.contains "managed") =
      true := by
    decide +kernel
  obtain ⟨buckets, hbuckets⟩ := exists_eq_ok_of_isOk
    (show (standard.build filesSchema labelledFile).isOk = true by decide +kernel)
  rw [hbuckets] at hmanaged
  obtain ⟨own, hown⟩ := Table.contains_iff.1 hmanaged
  obtain ⟨-, hkept, -⟩ := hbuild labelledFile buckets hbuckets
  refine ⟨buckets, own, hbuckets, hown, ?_⟩
  rw [hkept (by decide +kernel) "managed" own hown "context" (by decide)]
  decide +kernel

end HandlerTable

end Provision
