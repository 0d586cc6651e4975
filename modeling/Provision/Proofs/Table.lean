import Mathlib.Data.List.Nodup
import Mathlib.Data.List.Perm.Basic
import Provision.Table.Lemmas

/-!
# Joined tables

`Table.insertAll` writes a list of entries over a table and `Table.union` writes a whole table over
another one, so where keys coincide the later entry counts. The look-ups of both are described here:
`get?_insertAll_eq_some_iff` says which entry a key has in the end, `contains_insertAll` that no key
gets lost, and `get?_union` is the look-up in two tables, each of which has every key once. To write
one entry leaves what stands before and behind its place alone (`exists_entries_insert`).
-/

namespace Provision.Table

variable {α β : Type} {t u : Table α} {k : String} {v : α} {l : List (String × α)}

theorem contains_iff : t.contains k = true ↔ ∃ v, t.get? k = some v := Option.isSome_iff_exists

theorem contains_of_get? (h : t.get? k = some v) : t.contains k = true := contains_iff.2 ⟨v, h⟩

theorem isEmpty_of_get? (h : t.get? k = some v) : t.isEmpty = false := by
  unfold isEmpty
  rw [List.isEmpty_eq_false_iff]
  exact List.ne_nil_of_mem (get?_eq_some_iff.1 h)

theorem mem_keys : k ∈ t.keys ↔ t.contains k = true := by
  unfold keys
  simp only [List.mem_map, Prod.exists, exists_and_right, exists_eq_right, contains_iff,
    get?_eq_some_iff]

@[simp] theorem length_keys : t.keys.length = t.size := List.length_map _

@[simp] theorem isEmpty_map {f : α → β} : (t.map f).isEmpty = t.isEmpty := List.isEmpty_map

theorem contains_map {f : α → β} : (t.map f).contains k = t.contains k := by
  unfold contains
  rw [get?_map, Option.isSome_map]

theorem mem_values : v ∈ t.values ↔ ∃ k, t.get? k = some v := by
  unfold values
  simp only [List.mem_map, Prod.exists, exists_eq_right, get?_eq_some_iff]

theorem entries_ne_nil_iff : t.entries ≠ [] ↔ ∃ k v, t.get? k = some v := by
  constructor
  · intro h
    obtain ⟨e, he⟩ := List.exists_mem_of_ne_nil _ h
    exact ⟨e.1, e.2, get?_eq_some_iff.2 he⟩
  · rintro ⟨k, v, h⟩
    exact List.ne_nil_of_mem (get?_eq_some_iff.1 h)

theorem map_eq_self_iff {f : α → α} : t.map f = t ↔ ∀ k v, t.get? k = some v → f v = v := by
  constructor
  · intro h k v hv
    have hget : (t.map f).get? k = some v := by rw [h, hv]
    rw [get?_map, hv] at hget
    exact Option.some.inj hget
  · intro h
    apply ext_get?
    intro k
    rw [get?_map]
    cases hv : t.get? k with
    | none => rfl
    | some v => rw [Option.map_some, h k v hv]

@[simp] theorem insertAll_nil : t.insertAll [] = t := rfl

theorem insertAll_cons {e : String × α} :
    t.insertAll (e :: l) = (t.insert e.1 e.2).insertAll l := rfl

theorem insertAll_append (before after : List (String × α)) :
    t.insertAll (before ++ after) = (t.insertAll before).insertAll after := List.foldl_append

/-- Keys that the list does not write keep their value. -/
theorem get?_insertAll_of_forall_ne (h : ∀ e ∈ l, e.1 ≠ k) : (t.insertAll l).get? k = t.get? k := by
  induction l generalizing t with
  | nil => rfl
  | cons e l ih =>
    rw [insertAll_cons, ih fun e' he' => h e' (List.mem_cons_of_mem _ he')]
    exact get?_insert_of_ne fun hk => h e (List.mem_cons_self ..) hk.symm

/-- An entry of the result is the last one of the list's that has its key, or one of the table's
whose key the list does not write. -/
theorem get?_insertAll_eq_some_iff : (t.insertAll l).get? k = some v ↔
    (∃ before after, l = before ++ (k, v) :: after ∧ ∀ e ∈ after, e.1 ≠ k) ∨
      ((∀ e ∈ l, e.1 ≠ k) ∧ t.get? k = some v) := by
  constructor
  · intro h
    induction l generalizing t with
    | nil => exact .inr ⟨by simp, h⟩
    | cons e l ih =>
      rw [insertAll_cons] at h
      rcases ih h with ⟨before, after, rfl, hafter⟩ | ⟨hne, ht⟩
      · exact .inl ⟨e :: before, after, rfl, hafter⟩
      · by_cases hk : k = e.1
        · rw [hk, get?_insert_self] at ht
          have hv : e.2 = v := Option.some.inj ht
          exact .inl ⟨[], l, by rw [hk, ← hv, List.nil_append], hne⟩
        · rw [get?_insert_of_ne hk] at ht
          exact .inr ⟨List.forall_mem_cons.2 ⟨fun he => hk he.symm, hne⟩, ht⟩
  · intro h
    rcases h with ⟨before, after, rfl, hafter⟩ | ⟨hne, ht⟩
    · rw [insertAll_append, insertAll_cons, get?_insertAll_of_forall_ne hafter]
      exact get?_insert_self
    · rw [get?_insertAll_of_forall_ne hne, ht]

/-- An entry of the result is one of the list's, or one of the table's whose key the list does not
write. -/
theorem get?_insertAll_or (h : (t.insertAll l).get? k = some v) :
    (k, v) ∈ l ∨ ((∀ e ∈ l, e.1 ≠ k) ∧ t.get? k = some v) := by
  refine (get?_insertAll_eq_some_iff.1 h).imp_left fun hl => ?_
  obtain ⟨before, after, rfl, -⟩ := hl
  exact List.mem_append_right _ (List.mem_cons_self ..)

/-- If no two entries have one key, each of them is there afterwards. -/
theorem get?_insertAll_of_mem (hl : l.Pairwise fun a b => a.1 ≠ b.1) (h : (k, v) ∈ l) :
    (t.insertAll l).get? k = some v := by
  induction l generalizing t with
  | nil => cases h
  | cons e l ih =>
    obtain ⟨hhead, htail⟩ := List.pairwise_cons.1 hl
    rw [insertAll_cons]
    rcases List.mem_cons.1 h with rfl | hmem
    · rw [get?_insertAll_of_forall_ne fun e' he' => (hhead e' he').symm]
      exact get?_insert_self
    · exact ih htail hmem

theorem contains_insert {k' : String} :
    (t.insert k v).contains k' = true ↔ k' = k ∨ t.contains k' = true := by
  simp only [contains, get?_insert]
  by_cases hk : k' = k <;> simp [hk]

/-- The keys afterwards are those of the entries and those of before. -/
theorem contains_insertAll :
    (t.insertAll l).contains k = true ↔ (∃ e ∈ l, e.1 = k) ∨ t.contains k = true := by
  induction l generalizing t with
  | nil => simp
  | cons e l ih =>
    rw [insertAll_cons, ih, contains_insert]
    simp only [List.mem_cons, exists_eq_or_imp, or_assoc]
    rw [eq_comm (a := k), or_left_comm]

theorem pairwise_ne : t.entries.Pairwise fun a b => a.1 ≠ b.1 := by
  refine t.sorted.imp ?_
  intro a b hlt heq
  rw [heq] at hlt
  exact Text.Before.irrefl b.1 hlt

theorem nodup_keys : t.keys.Nodup := List.pairwise_map.2 pairwise_ne

/-- No value comes twice exactly if each one tells the key that it belongs to. -/
theorem nodup_values_iff :
    t.values.Nodup ↔ ∀ k k' v, t.get? k = some v → t.get? k' = some v → k = k' := by
  have hentries : t.entries.Nodup := List.Nodup.of_map _ nodup_keys
  unfold values
  rw [List.nodup_map_iff_inj_on hentries]
  simp only [get?_eq_some_iff]
  constructor
  · intro h k k' v hk hk'
    exact congrArg Prod.fst (h _ hk _ hk' rfl)
  · intro h e he e' he' heq
    exact Prod.ext (h e.1 e'.1 e.2 he (heq ▸ he')) heq

/-- What the entries before one entry of a table say of it. -/
theorem of_entries_eq {before after : List (String × α)}
    (h : t.entries = before ++ (k, v) :: after) :
    t.get? k = some v ∧ (before.Pairwise fun a b => a.1 ≠ b.1) ∧
    ∀ e ∈ before, t.get? e.1 = some e.2 := by
  have hpairwise := pairwise_ne (t := t)
  rw [h] at hpairwise
  refine ⟨?_, (List.pairwise_append.1 hpairwise).1, fun e he => ?_⟩
  · rw [get?_eq_some_iff, h]
    exact List.mem_append_right _ (List.mem_cons_self ..)
  · rw [get?_eq_some_iff, h]
    exact List.mem_append_left _ he

/-- The entries before one entry of a table are those with a smaller key. -/
theorem filter_before_of_entries_eq {before after : List (String × α)}
    (h : t.entries = before ++ (k, v) :: after) :
    (t.entries.filter fun e => Text.Before e.1 k) = before := by
  have hsorted := t.sorted
  rw [h, List.pairwise_append] at hsorted
  obtain ⟨-, hafter, hbefore⟩ := hsorted
  obtain ⟨hrest, -⟩ := List.pairwise_cons.1 hafter
  rw [h, List.filter_append, List.filter_cons_of_neg (by simp [Text.Before.irrefl])]
  have hall : (before.filter fun e => Text.Before e.1 k) = before :=
    List.filter_eq_self.2 fun e he => decide_eq_true (hbefore e he _ (List.mem_cons_self ..))
  have hnone : (after.filter fun e => Text.Before e.1 k) = [] :=
    List.filter_eq_nil_iff.2 fun e he => by
      have hk := hrest e he
      simpa using fun hek => Text.Before.irrefl k (hk.trans hek)
  rw [hall, hnone, List.append_nil]

/-- In a union the second table goes first. -/
theorem get?_union : (t.union u).get? k = (u.get? k).or (t.get? k) := by
  cases hu : u.get? k with
  | some v => exact get?_insertAll_of_mem pairwise_ne (get?_eq_some_iff.1 hu)
  | none =>
    refine get?_insertAll_of_forall_ne fun e he hk => ?_
    have hget : u.get? k = some e.2 := by
      rw [← hk]
      exact get?_eq_some_iff.2 he
    rw [hu] at hget
    cases hget

theorem contains_union :
    (t.union u).contains k = true ↔ u.contains k = true ∨ t.contains k = true := by
  simp only [contains, get?_union, Option.isSome_or, Bool.or_eq_true]

theorem mem_of_get?_ofList (h : (ofList l).get? k = some v) : (k, v) ∈ l := by
  rcases get?_insertAll_or h with hl | ⟨-, he⟩
  · exact hl
  · cases he

/-- If no two entries have one key, a table made of them has just these. -/
theorem get?_ofList_eq_some_iff (h : l.Pairwise fun a b => a.1 ≠ b.1) :
    (ofList l).get? k = some v ↔ (k, v) ∈ l :=
  ⟨mem_of_get?_ofList, get?_insertAll_of_mem h⟩

/-- Of several entries with one key the last counts. -/
theorem get?_ofList_eq_some_iff_last : (ofList l).get? k = some v ↔
    ∃ before after, l = before ++ (k, v) :: after ∧ ∀ e ∈ after, e.1 ≠ k := by
  have hempty : ¬ ((∀ e ∈ l, e.1 ≠ k) ∧ (empty : Table α).get? k = some v) := by
    intro h
    obtain ⟨-, he⟩ := h
    cases he
  exact get?_insertAll_eq_some_iff.trans (or_iff_left hempty)

/-- The table of a list has the keys of the list. -/
theorem contains_ofList : (ofList l).contains k = true ↔ k ∈ l.map (·.1) := by
  have hempty : (empty : Table α).contains k = false := rfl
  unfold ofList
  rw [contains_insertAll, hempty, List.mem_map]
  simp

theorem isEmpty_ofList_iff : (ofList l).isEmpty = true ↔ l = [] := by
  cases l with
  | nil => exact iff_of_true rfl rfl
  | cons e l =>
    obtain ⟨v, hv⟩ :=
      contains_iff.1 (contains_ofList.2
        (List.mem_map_of_mem (List.mem_cons_self (a := e) (l := l))))
    simp [isEmpty_of_get? hv]

/-- Every entry of a list counts exactly if no key occurs twice. -/
theorem size_ofList_eq_length_iff : (ofList l).size = l.length ↔ (l.map (·.1)).Nodup := by
  have hmem : ∀ k, k ∈ (ofList l).keys ↔ k ∈ l.map (·.1) := fun k => mem_keys.trans contains_ofList
  have hlength : (l.map (·.1)).length = l.length := List.length_map _
  rw [← length_keys, ← hlength]
  constructor
  · intro h
    have hsubperm := List.subperm_of_subset nodup_keys fun k hk => (hmem k).1 hk
    exact (hsubperm.perm_of_length_le (Nat.le_of_eq h.symm)).nodup_iff.1 nodup_keys
  · intro h
    exact ((List.perm_ext_iff_of_nodup nodup_keys h).2 hmem).length_eq

/-- A table is the table of its entries. -/
theorem ofList_entries : ofList t.entries = t := by
  apply ext_get?
  intro k
  ext v
  rw [get?_ofList_eq_some_iff pairwise_ne, get?_eq_some_iff]

/-- A list in ascending order of its keys is that of its table. -/
theorem entries_ofList (h : l.Pairwise fun a b => Text.Before a.1 b.1) : (ofList l).entries = l :=
  congrArg entries (ofList_entries (t := ⟨l, h⟩))

/-- A later value takes the place of an earlier one. -/
theorem insert_insert {w : α} : (t.insert k v).insert k w = t.insert k w := by
  apply ext_get?
  intro k'
  by_cases hk : k' = k
  · rw [hk, get?_insert_self, get?_insert_self]
  · rw [get?_insert_of_ne hk, get?_insert_of_ne hk, get?_insert_of_ne hk]

/-- To erase a key before it is set makes no difference. -/
theorem insert_erase : (t.erase k).insert k v = t.insert k v := by
  apply ext_get?
  intro k'
  by_cases hk : k' = k
  · rw [hk, get?_insert_self, get?_insert_self]
  · rw [get?_insert_of_ne hk, get?_insert_of_ne hk, get?_erase_of_ne hk]

/-- Writing an entry that is already there changes nothing. -/
theorem insert_of_get? (h : t.get? k = some v) : t.insert k v = t := by
  apply ext_get?
  intro k'
  by_cases hk : k' = k
  · rw [hk, get?_insert_self, h]
  · exact get?_insert_of_ne hk

/-- A key has one place in a list by ascending key, whether it is there already or not. -/
theorem exists_place (k : String) (l : List (String × α)) : ∃ before after,
    (∀ v, place k v l = before ++ (k, v) :: after) ∧
      (l = before ++ after ∨ ∃ v, l = before ++ (k, v) :: after) := by
  induction l with
  | nil => exact ⟨[], [], fun _ => rfl, .inl rfl⟩
  | cons e rest ih =>
    obtain ⟨before, after, hplace, hl⟩ := ih
    by_cases hlt : Text.Before k e.1
    · exact ⟨[], e :: rest, fun _ => if_pos hlt, .inl rfl⟩
    · by_cases heq : k = e.1
      · refine ⟨[], rest, fun _ => (if_neg hlt).trans (if_pos heq), .inr ⟨e.2, ?_⟩⟩
        rw [heq, List.nil_append]
      · refine ⟨e :: before, after, fun v => ?_, ?_⟩
        · exact ((if_neg hlt).trans (if_neg heq)).trans (congrArg (e :: ·) (hplace v))
        · rcases hl with rfl | ⟨v, rfl⟩
          · exact .inl rfl
          · exact .inr ⟨v, rfl⟩

/-- A table is cut at a key, and writing to the key leaves both parts alone. -/
theorem exists_entries_insert (t : Table α) (k : String) : ∃ before after,
    (∀ e ∈ before ++ after, e.1 ≠ k) ∧ t.entries = before ++ (t.get? k).toList.map (k, ·) ++ after ∧
      ∀ v, (t.insert k v).entries = before ++ (k, v) :: after := by
  obtain ⟨before, after, hplace, hentries⟩ := exists_place k t.entries
  have hinsert : ∀ v, (t.insert k v).entries = before ++ (k, v) :: after := hplace
  have hne : ∀ e ∈ before ++ after, e.1 ≠ k := by
    intro e he
    have hpairwise := pairwise_ne (t := t.insert k e.2)
    rw [hinsert, List.pairwise_append, List.pairwise_cons] at hpairwise
    obtain ⟨-, ⟨hafter, -⟩, hbefore⟩ := hpairwise
    rcases List.mem_append.1 he with hmem | hmem
    · exact hbefore e hmem _ (List.mem_cons_self ..)
    · exact (hafter e hmem).symm
  refine ⟨before, after, hne, ?_, hinsert⟩
  rcases hentries with hentries | ⟨v, hentries⟩
  · have hnone : t.get? k = none := by
      rw [Option.eq_none_iff_forall_ne_some]
      intro v hv
      rw [get?_eq_some_iff, hentries] at hv
      exact hne _ hv rfl
    simpa [hnone] using hentries
  · have hsome : t.get? k = some v := (of_entries_eq hentries).1
    simpa [hsome] using hentries

end Provision.Table
