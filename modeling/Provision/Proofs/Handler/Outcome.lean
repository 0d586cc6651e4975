import Provision.Handler.Standard
import Provision.Proofs.Handler.Packages

/-!
# What handlers come to

A handler either fails with a fault of its module or gives buckets, and `Schema.Gives` says of a
result that it is the one or the other. It goes along with the steps of a handler (`Gives.bind`,
`Gives.mapM`), so what a handler comes to is put together from what its steps come to.
`standard_sorts` is the outcome for the standard handlers: they put attributes into the default
state or into declared ones, and only a path can be put into a state of its own, the one of being
absent.
-/

namespace Provision

namespace Schema

variable {α β : Type} {s : Schema} {P : α → Prop} {r : Except ConvertError α}

/-- A result with a property, or a fault of the module. -/
def Gives (s : Schema) (P : α → Prop) : Except ConvertError α → Prop
  | .ok a => P a
  | .error e => ∃ cause, e = s.fault cause

/-- If each of two steps gives what it should or fails with a fault of the module, so do both of
them. -/
theorem Gives.bind {R : β → Prop} {f : α → Except ConvertError β} (h : s.Gives P r)
    (hf : ∀ a, P a → s.Gives R (f a)) : s.Gives R (r >>= f) := by
  cases r with
  | error e => exact h
  | ok a => exact hf a h

/-- So do steps on the items of a list. -/
theorem Gives.mapM {R : β → Prop} {f : α → Except ConvertError β} {l : List α}
    (h : ∀ x ∈ l, s.Gives R (f x)) : s.Gives (fun ys => ∀ y ∈ ys, R y) (l.mapM f) := by
  induction l with
  | nil => simp [Gives, pure, Except.pure]
  | cons x l ih =>
    obtain ⟨hx, hl⟩ := List.forall_mem_cons.1 h
    rw [List.mapM_cons]
    exact hx.bind fun y hy => (ih hl).bind fun ys hys => List.forall_mem_cons.2 ⟨hy, hys⟩

/-- Buckets that all belong to some states. -/
def Within (states : List String) (buckets : Buckets) : Prop :=
  ∀ state, buckets.contains state = true → state ∈ states

theorem within_singleton {states : List String} {state : String} {a : Attributes}
    (h : state ∈ states) :
    Within states (.singleton state a) := by
  intro state' hstate'
  rcases Table.contains_insert.1 hstate' with rfl | hempty
  · exact h
  · cases hempty

end Schema

open Schema

/-- A handler puts attributes into the default state, into declared ones, and into some others. -/
def Handler.Sorts (handler : Handler) (others : List String) : Prop :=
  ∀ (s : Schema) (a : Attributes),
    s.Gives (Within (s.defaultState :: s.states ++ others)) (handler s a)

namespace Handler

variable {s : Schema} {a : Attributes} {key : String} {style : PinStyle} {others : List String}

theorem gives_defaultBuckets : s.Gives (Within (s.defaultState :: s.states ++ others))
    (.ok (s.defaultBuckets a)) :=
  within_singleton (List.mem_cons_self ..)

theorem gives_coerceInt {cause : Value → BuildFault} :
    s.Gives (fun _ => True) (Attributes.coerceInt s a key cause) := by
  unfold Attributes.coerceInt
  split
  · trivial
  · split
    · trivial
    · exact ⟨_, rfl⟩

/-! ## Package lists -/

theorem gives_packageEntries : s.Gives (fun _ => True) (packageEntries s key a) := by
  unfold packageEntries
  split
  · trivial
  · trivial
  · exact ⟨_, rfl⟩
  · exact ⟨_, rfl⟩

/-- A package is put into the default state or into one that the module declares. -/
theorem gives_placePair (e : String × Value) :
    s.Gives (fun placed => placed.1 ∈ s.defaultState :: s.states) (placePair s style e) := by
  have hdefault : s.defaultState ∈ s.defaultState :: s.states := List.mem_cons_self ..
  unfold placePair
  split
  · split
    · exact ⟨_, rfl⟩
    · split
      · next hstate => exact List.mem_cons_of_mem _ (List.contains_iff_mem.1 hstate)
      · exact hdefault
  · exact hdefault

theorem gives_placeEntry (entry : Value) :
    s.Gives (fun placed => ∀ p ∈ placed, p.1 ∈ s.defaultState :: s.states)
      (placeEntry s key style entry) := by
  unfold placeEntry
  split
  · exact .mapM fun e _ => gives_placePair e
  · split
    · exact List.forall_mem_singleton.2 (List.mem_cons_self ..)
    · exact ⟨_, rfl⟩

theorem packages_sorts (key : String) (style : PinStyle) : (packages key style).Sorts [] := by
  intro s a
  refine gives_packageEntries.bind fun entries _ => ?_
  refine (Gives.mapM fun entry _ => gives_placeEntry entry).bind fun placed hplaced => ?_
  intro state hstate
  rw [Table.contains_map, contains_groupItems] at hstate
  obtain ⟨p, hp, rfl⟩ := hstate
  obtain ⟨entry, hentry, hp⟩ := List.mem_flatten.1 hp
  exact List.mem_append_left _ (hplaced entry hentry p hp)

/-! ## The others -/

theorem sourceControl_sorts : sourceControl.Sorts [] := fun _ _ => gives_defaultBuckets

theorem repositoryFile_sorts : repositoryFile.Sorts [] := by
  intro s a
  unfold repositoryFile
  split
  · exact ⟨_, rfl⟩
  · split <;> exact gives_defaultBuckets

theorem gemSource_sorts : gemSource.Sorts [] := by
  intro s a
  unfold gemSource
  split
  · exact ⟨_, rfl⟩
  · exact gives_defaultBuckets

theorem sshKey_sorts : sshKey.Sorts [] := by
  intro s a
  unfold sshKey
  dsimp only
  split <;> exact gives_defaultBuckets

/-- A path is in its default state, or absent. -/
theorem path_sorts : path.Sorts ["absent"] := by
  intro s a
  unfold path
  dsimp only
  split
  · split
    · exact within_singleton (List.mem_append_right _ (List.mem_singleton_self _))
    · exact ⟨_, rfl⟩
  · exact gives_coerceInt.bind fun _ _ => gives_defaultBuckets

theorem directory_sorts : directory.Sorts ["absent"] :=
  fun s a => path_sorts s (a.insert "makedirs" (.bool true))

theorem command_sorts : command.Sorts [] := fun _ _ =>
  gives_coerceInt.bind fun _ _ => gives_defaultBuckets

theorem account_sorts : account.Sorts [] := fun _ _ =>
  gives_coerceInt.bind fun _ _ => gives_coerceInt.bind fun _ _ => gives_defaultBuckets

theorem mount_sorts : mount.Sorts [] := fun _ _ => gives_defaultBuckets

theorem volume_sorts : volume.Sorts [] := fun _ _ => gives_defaultBuckets

end Handler

/-- The modules of paths. -/
def pathModules : List String := ["linux.dir", "linux.file", "linux.symlink"]

namespace HandlerTable

/-- The states of a standard module that its handler knows of by itself. -/
def ownStates (module : String) : List String := if module ∈ pathModules then ["absent"] else []

open Handler in
/-- The standard handlers, each with its own states. -/
theorem standard_sorts {module : String} {handler : Handler}
    (h : standard.get? module = some handler) :
    handler.Sorts (ownStates module) := by
  have hall : ∀ l : List (String × Handler), (∀ e ∈ l, e.2.Sorts (ownStates e.1)) →
      (Table.ofList l).get? module = some handler → handler.Sorts (ownStates module) :=
    fun l hl hget => hl _ (Table.mem_of_get?_ofList hget)
  refine hall _ ?_ h
  simp only [List.forall_mem_cons]
  exact ⟨packages_sorts _ _, packages_sorts _ _, packages_sorts _ _, packages_sorts _ _,
    packages_sorts _ _, sourceControl_sorts, sourceControl_sorts, sourceControl_sorts,
    repositoryFile_sorts, repositoryFile_sorts, gemSource_sorts, sshKey_sorts, sshKey_sorts,
    directory_sorts, path_sorts, path_sorts, command_sorts, account_sorts, account_sorts,
    mount_sorts, volume_sorts, volume_sorts, by simp⟩

/-- Building gives buckets, at least one, or fails with a fault of the module. -/
theorem build_standard (s : Schema) (a : Attributes) :
    s.Gives (fun buckets => buckets.isEmpty = false ∧
      Within (s.defaultState :: s.states ++ ownStates s.id) buckets) (standard.build s a) := by
  have hany : ∀ buckets, Within (s.defaultState :: s.states ++ ownStates s.id) buckets →
      s.Gives (fun buckets => buckets.isEmpty = false ∧
        Within (s.defaultState :: s.states ++ ownStates s.id) buckets)
        (if buckets.isEmpty then .error (s.fault .noBucket) else .ok buckets) := by
    intro buckets hbuckets
    split
    · exact ⟨_, rfl⟩
    · next hne => exact ⟨Bool.eq_false_iff.2 hne, hbuckets⟩
  unfold build
  dsimp only
  split
  · next handler hhandler => exact (standard_sorts hhandler s a).bind hany
  · exact Gives.bind Handler.gives_defaultBuckets hany

end HandlerTable

end Provision
