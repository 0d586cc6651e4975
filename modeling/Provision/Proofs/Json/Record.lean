import Mathlib.Data.List.Nodup
import Provision.Proofs.Results
import Provision.Proofs.Value.Json

/-!
# Reading what was written

Each way to read a source, applied to what is written for some data, gives the data again. A record
is written as an object of those of its members that are there (`present`): these are found under
their names, and for what is left out the default counts (`optional_membersOf`).
-/

namespace Provision.Json

variable {α : Type} {name : String} {j : Json}

namespace Source

theorem ofJsonItems_eq_map (l : List Json) : ofJsonItems l = l.map ofJson := by
  induction l with
  | nil => rfl
  | cons j l ih => rw [ofJsonItems, ih, List.map_cons]

theorem ofJsonMembers_eq_map (l : List (String × Json)) :
    ofJsonMembers l = l.map fun m => (some m.1, ofJson m.2) := by
  induction l with
  | nil => rfl
  | cons m l ih => rw [ofJsonMembers, ih, List.map_cons]

end Source

/-! ## Values, lists and tables -/

theorem value_ofJson (j : Json) : value (.ofJson j) = .ok (.ofJson j) := by
  rw [value, Source.json?_ofJson]

/-- A name is read as what it was written for. -/
theorem named_ofJson [Named α] (a : α) : named α (.ofJson (.str (Named.name a))) = .ok a := by
  have hname : Named.ofName? (Named.name a) = some a := Named.ofName?_eq_some_iff.2 rfl
  rw [Source.ofJson, named, hname]

/-- Lists are read back if their items are. -/
theorem listOf_ofJson {read : Reading α} {write : α → Json} {l : List α}
    (h : ∀ a ∈ l, read (.ofJson (write a)) = .ok a) :
    listOf read (.ofJson (.arr (l.map write))) = .ok l := by
  have hread : (l.map fun a => Source.ofJson (write a)).mapM read = .ok (l.map id) :=
    mapM_map_eq_ok h
  rw [Source.ofJson, listOf, Source.ofJsonItems_eq_map, List.map_map, Function.comp_def, hread,
    List.map_id]

theorem tableOf_ofJson {read : Reading α} {write : α → Json} {t : Table α}
    (h : ∀ e ∈ t.entries, read (.ofJson (write e.2)) = .ok e.2) :
    tableOf read (.ofJson (t.toJson write)) = .ok t := by
  rw [Table.toJson, Source.ofJson, tableOf, Source.ofJsonMembers_eq_map, List.map_map,
    mapM_map_eq_ok (h := id)]
  · rw [List.map_id, ok_bind, Table.ofList_entries]
    rfl
  · intro e he
    simp only [Function.comp_apply, h e he]
    rfl

/-! ## Records -/

theorem repeated?_eq_none {l : List (String × Source)} (h : (l.map (·.1)).Nodup) :
    repeated? l = none := by
  induction l with
  | nil => rfl
  | cons m l ih =>
    obtain ⟨hfirst, hrest⟩ := List.nodup_cons.1 h
    have hany : l.any (·.1 == m.1) = false := by
      rw [List.any_eq_false]
      intro m' hm' heq
      exact hfirst (List.mem_map.2 ⟨m', hm', eq_of_beq heq⟩)
    rw [repeated?, hany, if_neg Bool.false_ne_true, ih hrest]

/-- The members that are there, of those that a record may have. -/
def present (l : List (String × Option Json)) : List (String × Json) :=
  l.filterMap fun m => m.2.map (m.1, ·)

/-- The members of a record, by name. -/
def membersOf (l : List (String × Option Json)) : Table Source :=
  .ofList ((present l).map fun m => (m.1, .ofJson m.2))

variable {l : List (String × Option Json)} {o : Option Json} {read : Reading α} {default a : α}

theorem mem_present {m : String × Json} : m ∈ present l ↔ (m.1, some m.2) ∈ l := by
  simp only [present, List.mem_filterMap, Option.map_eq_some_iff, Prod.exists]
  constructor
  · rintro ⟨k, _, hk, j, rfl, rfl⟩
    exact hk
  · intro hm
    exact ⟨m.1, some m.2, hm, m.2, rfl, rfl⟩

/-- What is there stands in the order of the names. -/
theorem sublist_present (l : List (String × Option Json)) :
    ((present l).map (·.1)).Sublist (l.map (·.1)) := by
  induction l with
  | nil => exact List.Sublist.refl _
  | cons m l ih =>
    match m with
    | (name, none) => exact ih.cons name
    | (name, some _) => exact ih.cons_cons name

/-- A record reads the members that were written, each once and none under an unknown name. -/
theorem record_present (h : (l.map (·.1)).Nodup) :
    record (l.map (·.1)) (.ofJson (.obj (present l))) = .ok (membersOf l) := by
  have hknown : (((present l).map fun m => (m.1, Source.ofJson m.2)).filter
      fun m => (l.map (·.1)).contains m.1) = (present l).map fun m => (m.1, Source.ofJson m.2) := by
    rw [List.filter_eq_self]
    intro m' hm'
    obtain ⟨m, hm, rfl⟩ := List.mem_map.1 hm'
    exact List.contains_iff_mem.2 (List.mem_map.2 ⟨_, mem_present.1 hm, rfl⟩)
  have hrepeated : repeated? ((present l).map fun m => (m.1, Source.ofJson m.2)) = none := by
    apply repeated?_eq_none
    rw [List.map_map]
    exact (sublist_present l).nodup h
  rw [Source.ofJson, record, Source.ofJsonMembers_eq_map,
    mapM_map_eq_ok (h := fun m => (m.1, Source.ofJson m.2))]
  · simp only [ok_bind, hknown, hrepeated]
    rfl
  · exact fun _ _ => rfl

/-- What is there is found under its name. -/
theorem get?_membersOf (h : (l.map (·.1)).Nodup) (ho : (name, o) ∈ l) :
    (membersOf l).get? name = o.map .ofJson := by
  ext s
  rw [membersOf, Table.get?_ofList_eq_some_iff
    (List.pairwise_map.1 (by rw [List.map_map]; exact (sublist_present l).nodup h)),
    Option.map_eq_some_iff]
  simp only [List.mem_map, mem_present, Prod.exists, Prod.mk.injEq]
  constructor
  · rintro ⟨k, j, hj, rfl, rfl⟩
    have hsame : (k, some j) = (k, o) := List.inj_on_of_nodup_map h hj ho rfl
    exact ⟨j, (congrArg Prod.snd hsame).symm, rfl⟩
  · rintro ⟨j, rfl, rfl⟩
    exact ⟨name, j, ho, rfl, rfl⟩

/-- A member that has to be there is found and read. -/
theorem required_membersOf (h : (l.map (·.1)).Nodup) (hj : (name, some j) ∈ l)
    (hread : read (.ofJson j) = .ok a) :
    required (membersOf l) name read = .ok a := by
  rw [required, get?_membersOf h hj]
  exact hread

/-- For what is left out the default counts. -/
theorem optional_membersOf (h : (l.map (·.1)).Nodup) (ho : (name, o) ∈ l)
    (hread : ∀ j, o = some j → read (.ofJson j) = .ok a) (hdefault : o = none → default = a) :
    optional (membersOf l) name read default = .ok a := by
  rw [optional, get?_membersOf h ho]
  cases o with
  | none => exact congrArg Except.ok (hdefault rfl)
  | some j => exact hread j rfl

/-- A member that was written is read and not replaced by its default. -/
theorem optional_of_some (h : (l.map (·.1)).Nodup) (hj : (name, some j) ∈ l)
    (hread : read (.ofJson j) = .ok a) :
    optional (membersOf l) name read default = .ok a := by
  refine optional_membersOf h hj ?_ nofun
  rintro _ ⟨⟩
  exact hread

/-- What is left out where there is nothing is read as it was written. -/
theorem optional_nullable {b : Option α} {write : α → Json} (h : (l.map (·.1)).Nodup)
    (hb : (name, b.map write) ∈ l) (hread : ∀ a, nullable read (.ofJson (write a)) = .ok (some a)) :
    optional (membersOf l) name (nullable read) none = .ok b := by
  refine optional_membersOf h hb ?_ fun hnone => (Option.map_eq_none_iff.1 hnone).symm
  intro j hj
  obtain ⟨a, rfl, rfl⟩ := Option.map_eq_some_iff.1 hj
  exact hread a

/-- A list that is left out if it is empty is read as it was written. -/
theorem optional_listOf {items : List α} {write : α → Json} (h : (l.map (·.1)).Nodup)
    (hitems : (name, if items.isEmpty then none else some (.arr (items.map write))) ∈ l)
    (hread : ∀ a ∈ items, read (.ofJson (write a)) = .ok a) :
    optional (membersOf l) name (listOf read) [] = .ok items := by
  refine optional_membersOf h hitems ?_ ?_
  · intro j hj
    split at hj
    · cases hj
    · cases hj
      exact listOf_ofJson hread
  · intro hnone
    split at hnone
    · next hempty => exact (List.isEmpty_iff.1 hempty).symm
    · cases hnone

theorem Readable.present {n : Nat} (h : ∀ m ∈ l, ∀ j, m.2 = some j → Readable n j) :
    Readable (n + 1) (.obj (present l)) :=
  .obj fun m hm => h (m.1, some m.2) (mem_present.1 hm) m.2 rfl

end Provision.Json
