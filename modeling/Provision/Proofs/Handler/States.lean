import Provision.Proofs.Handler.Outcome
import Provision.Proofs.Registry.Check

/-!
# Which states are brought about

A module declares its states, and what it is built with should not leave them. Most handlers know
the default state only, which is a declared one, and the handlers of packages look a state up before
they use it. The handlers of paths do not: a path that is to be absent gets a state of that name,
and whether the module declares it is not asked (`Handler.ForPaths`). So a module is built with
declared states, unless it is a path that is to be absent and does not declare the state for it
(`build_declared_iff`), and every module of a path comes to that for some attributes
(`exists_build_absent`).
-/

namespace Provision

open Schema

namespace Handler

variable {s : Schema} {a : Attributes}

/-- What becomes of a path that is to be absent: its name, in a state of its own. -/
def removed (s : Schema) (a : Attributes) : Except ConvertError Buckets :=
  match a.get? "name" with
  | some name => .ok (.singleton "absent" (.singleton "name" name))
  | none => .error (s.fault .absentWithoutName)

/-- A handler of paths removes what is to be absent, and puts everything else into the default
state. -/
structure ForPaths (handler : Handler) : Prop where
  absent : ∀ (s : Schema) (a : Attributes), Attributes.isSet a "absent" = true →
    handler s a = removed s a
  present : ∀ (s : Schema) (a : Attributes), Attributes.isSet a "absent" = false →
    s.Gives (Within [s.defaultState]) (handler s a)

/-- A path is what its attribute `absent` says. -/
theorem path_forPaths : path.ForPaths where
  absent s a h := by
    have hname : (a.erase "absent").get? "name" = a.get? "name" :=
      Table.get?_erase_of_ne (by decide)
    unfold path removed
    dsimp only
    rw [if_pos h]
    cases hget : a.get? "name" <;> simp only [hname, hget]
  present s a h := by
    unfold path
    dsimp only
    rw [if_neg (ne_true_of_eq_false h)]
    exact gives_coerceInt.bind fun _ _ => within_singleton (List.mem_singleton_self _)

/-- That parents are made has no part in whether a path is to be absent. -/
theorem isSet_insert_makedirs :
    Attributes.isSet (a.insert "makedirs" (.bool true)) "absent" = Attributes.isSet a "absent" := by
  unfold Attributes.isSet
  rw [Table.get?_insert_of_ne (by decide)]

theorem directory_forPaths : directory.ForPaths where
  absent s a h := by
    have hpath := path_forPaths.absent s _ (isSet_insert_makedirs.trans h)
    unfold removed at hpath
    rw [Table.get?_insert_of_ne (by decide)] at hpath
    exact hpath
  present s a h := path_forPaths.present s _ (isSet_insert_makedirs.trans h)

end Handler

/-- The attributes ask for a path to be absent. -/
def Schema.Removes (s : Schema) (a : Attributes) : Prop :=
  s.id ∈ pathModules ∧ Attributes.isSet a "absent" = true

instance (s : Schema) (a : Attributes) : Decidable (s.Removes a) :=
  inferInstanceAs (Decidable (_ ∧ _))

/-- The default state is declared, if there is any. -/
theorem Schema.defaultState_mem {s : Schema} (h : s.states ≠ []) : s.defaultState ∈ s.states := by
  obtain ⟨first, rest, hfirst⟩ := List.exists_cons_of_ne_nil h
  unfold defaultState
  rw [hfirst]
  exact List.mem_cons_self ..

namespace HandlerTable

variable {s : Schema} {a : Attributes} {buckets : Buckets}

/-- The handlers of these modules are those of paths. -/
theorem exists_forPaths {module : String} (h : module ∈ pathModules) :
    ∃ handler, standard.get? module = some handler ∧ handler.ForPaths := by
  simp only [pathModules, List.mem_cons, List.not_mem_nil, or_false] at h
  rcases h with rfl | rfl | rfl
  · exact ⟨_, rfl, Handler.directory_forPaths⟩
  · exact ⟨_, rfl, Handler.path_forPaths⟩
  · exact ⟨_, rfl, Handler.path_forPaths⟩

/-- What a module with a handler is built with comes from the handler. -/
theorem handler_eq_ok_of_build {t : HandlerTable} {handler : Handler}
    (ht : t.get? s.id = some handler) (h : t.build s a = .ok buckets) :
    handler s a = .ok buckets := by
  unfold build at h
  rw [ht] at h
  obtain ⟨found, hfound, h⟩ := bind_eq_ok_iff.1 h
  dsimp only at h
  split at h
  · cases h
  · cases h
    exact hfound

/-- A path that is to be absent is built as nothing but its name, whatever states its module
declares. -/
theorem build_of_removes (h : s.Removes a) : standard.build s a = Handler.removed s a := by
  obtain ⟨hmodule, habsent⟩ := h
  obtain ⟨handler, hget, hpaths⟩ := exists_forPaths hmodule
  have hhandler := hpaths.absent s a habsent
  unfold build
  rw [hget]
  dsimp only
  rw [hhandler]
  unfold Handler.removed
  cases a.get? "name" <;> rfl

/-- A path that is to be absent has the one bucket, with its name in it and nothing else. -/
theorem buckets_of_removes (hremoves : s.Removes a) (h : standard.build s a = .ok buckets) :
    ∃ name, a.get? "name" = some name ∧ buckets = .singleton "absent" (.singleton "name" name) := by
  rw [build_of_removes hremoves] at h
  unfold Handler.removed at h
  cases hname : a.get? "name" with
  | none =>
    rw [hname] at h
    cases h
  | some name =>
    rw [hname] at h
    cases h
    exact ⟨name, rfl, rfl⟩

/-- Everything else is put into states that the module declares. -/
theorem build_kept (hs : s.states ≠ []) (hkept : ¬ s.Removes a)
    (h : standard.build s a = .ok buckets) {state : String}
    (hstate : buckets.contains state = true) : state ∈ s.states := by
  by_cases hmodule : s.id ∈ pathModules
  · obtain ⟨handler, hget, hpaths⟩ := exists_forPaths hmodule
    have hgives := hpaths.present s a (Bool.eq_false_iff.2 fun habsent => hkept ⟨hmodule, habsent⟩)
    rw [handler_eq_ok_of_build hget h] at hgives
    rw [List.mem_singleton.1 (hgives state hstate)]
    exact Schema.defaultState_mem hs
  · have hgives := build_standard s a
    have hnone : ownStates s.id = [] := if_neg hmodule
    rw [h, hnone, List.append_nil] at hgives
    rcases List.mem_cons.1 (hgives.2 state hstate) with rfl | hdeclared
    · exact Schema.defaultState_mem hs
    · exact hdeclared

/-- A module is built with declared states exactly if it is no path to be absent, or declares the
state for it. -/
theorem build_declared_iff (hs : s.states ≠ []) (h : standard.build s a = .ok buckets) :
    (∀ state, buckets.contains state = true → state ∈ s.states) ↔
      (s.Removes a → "absent" ∈ s.states) := by
  constructor
  · intro hdeclared hremoves
    obtain ⟨name, -, rfl⟩ := buckets_of_removes hremoves h
    exact hdeclared "absent" (Table.contains_insert.2 (.inl rfl))
  · intro habsent state hstate
    by_cases hremoves : s.Removes a
    · obtain ⟨name, -, rfl⟩ := buckets_of_removes hremoves h
      rcases Table.contains_insert.1 hstate with rfl | hempty
      · exact habsent hremoves
      · cases hempty
    · exact build_kept hs hremoves h hstate

/-- The module of a path can be built with the state of being absent, whatever states it
declares. -/
theorem exists_build_absent (h : s.id ∈ pathModules) :
    ∃ a buckets, standard.build s a = .ok buckets ∧ buckets.contains "absent" = true := by
  let a : Attributes := (Table.singleton "name" .null).insert "absent" (.bool true)
  have habsent : Attributes.isSet a "absent" = true := by
    unfold Attributes.isSet
    rw [Table.get?_insert_self]
    rfl
  have hname : a.get? "name" = some .null := by
    rw [Table.get?_insert_of_ne (by decide)]
    exact Table.get?_insert_self
  refine ⟨a, .singleton "absent" (.singleton "name" .null), ?_, Table.contains_insert.2 (.inl rfl)⟩
  rw [build_of_removes ⟨h, habsent⟩, Handler.removed, hname]

end HandlerTable

end Provision
