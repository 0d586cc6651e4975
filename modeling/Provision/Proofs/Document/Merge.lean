import Provision.Document.Basic
import Provision.Proofs.Table

/-!
# Merged document maps

The documents of several prerequisites go into one map, one map after another, and where tags
coincide the later document counts. No tag gets lost that way (`contains_merge`), but a document
can: `get?_merge_eq_some_iff` says which one a tag has in the end, and `forall_within_merge_iff`
that all documents are still there exactly if any two of the maps agree.
-/

namespace Provision

/-- Document maps one over the other; where tags coincide, the later document counts. -/
def DocumentMap.merge (maps : List DocumentMap) : DocumentMap := maps.foldl Table.union ∅

namespace DocumentMap

variable {m n : DocumentMap} {maps : List DocumentMap} {t : String} {d : Document}

/-- Every document of the one map stands in the other, unchanged and under its tag. -/
def Within (m n : DocumentMap) : Prop := ∀ entry ∈ m.entries, n.get? entry.1 = some entry.2

/-- A tag of both maps has the same document in both. -/
def Agree (m n : DocumentMap) : Prop :=
  ∀ entry ∈ m.entries, n.contains entry.1 = true → n.get? entry.1 = some entry.2

instance : Decidable (Within m n) :=
  inferInstanceAs (Decidable (∀ entry ∈ m.entries, n.get? entry.1 = some entry.2))

instance : Decidable (Agree m n) :=
  inferInstanceAs (Decidable (∀ entry ∈ m.entries, n.contains entry.1 = true →
    n.get? entry.1 = some entry.2))

theorem Within.get? (h : m.Within n) (hd : m.get? t = some d) : n.get? t = some d :=
  h (t, d) (Table.get?_eq_some_iff.1 hd)

theorem Within.refl (m : DocumentMap) : m.Within m := fun _ he => Table.get?_eq_some_iff.2 he

theorem Agree.get? (h : m.Agree n) (hd : m.get? t = some d) (ht : n.contains t = true) :
    n.get? t = some d :=
  h (t, d) (Table.get?_eq_some_iff.1 hd) ht

/-- What holds of the empty map and is kept by each of the maps written over it holds of the merged
one. -/
theorem merge_induction {P : DocumentMap → Prop} (empty : P ∅)
    (union : ∀ acc, P acc → ∀ m ∈ maps, P (acc.union m)) : P (merge maps) :=
  List.foldlRecOn maps Table.union empty union

/-- No tag gets lost, and none is added. -/
theorem contains_merge : (merge maps).contains t = true ↔ ∃ m ∈ maps, m.contains t = true := by
  suffices h : ∀ acc : DocumentMap, (maps.foldl Table.union acc).contains t = true ↔
      acc.contains t = true ∨ ∃ m ∈ maps, m.contains t = true by
    have hempty : ¬ (∅ : DocumentMap).contains t = true := fun he => by cases he
    exact (h ∅).trans (or_iff_right hempty)
  induction maps with
  | nil => simp
  | cons m maps ih =>
    intro acc
    rw [List.foldl_cons, ih, Table.contains_union, or_comm (b := acc.contains t = true), or_assoc]
    simp only [List.mem_cons, exists_eq_or_imp]

/-- The document of a tag is the one of the last map that has the tag. -/
theorem get?_merge_eq_some_iff : (merge maps).get? t = some d ↔
    ∃ before m after, maps = before ++ m :: after ∧ m.get? t = some d ∧
      ∀ n ∈ after, n.get? t = none := by
  -- with any accumulator, whose document counts if none of the maps has the tag
  suffices h : ∀ acc : DocumentMap, (maps.foldl Table.union acc).get? t = some d ↔
      (acc.get? t = some d ∧ ∀ n ∈ maps, n.get? t = none) ∨
      ∃ before m after, maps = before ++ m :: after ∧ m.get? t = some d ∧
        ∀ n ∈ after, n.get? t = none by
    have hempty : ¬ ((∅ : DocumentMap).get? t = some d ∧ ∀ n ∈ maps, n.get? t = none) := by
      intro h
      obtain ⟨he, -⟩ := h
      cases he
    exact (h ∅).trans (or_iff_right hempty)
  induction maps with
  | nil => simp
  | cons m maps ih =>
    intro acc
    rw [List.foldl_cons, ih, Table.get?_union]
    constructor
    · intro h
      rcases h with ⟨hget, hafter⟩ | ⟨before, m', after, rfl, hm'⟩
      · cases hm : m.get? t with
        | none =>
          rw [hm] at hget
          exact .inl ⟨hget, by simpa [hm] using hafter⟩
        | some d' =>
          rw [hm] at hget
          cases hget
          exact .inr ⟨[], m, maps, rfl, hm, hafter⟩
      · exact .inr ⟨m :: before, m', after, rfl, hm'⟩
    · intro h
      rcases h with ⟨hget, hafter⟩ | ⟨before, m', after, hmaps, hm', hafter⟩
      · rw [hafter m (List.mem_cons_self ..)]
        exact .inl ⟨hget, fun n hn => hafter n (List.mem_cons_of_mem _ hn)⟩
      · cases before with
        | nil =>
          cases hmaps
          rw [hm']
          exact .inl ⟨rfl, hafter⟩
        | cons m'' before =>
          cases hmaps
          exact .inr ⟨before, m', after, rfl, hm', hafter⟩

theorem mem_of_get?_merge (h : (merge maps).get? t = some d) : ∃ m ∈ maps, m.get? t = some d := by
  obtain ⟨before, m, after, rfl, hm, -⟩ := get?_merge_eq_some_iff.1 h
  exact ⟨m, List.mem_append_right _ (List.mem_cons_self ..), hm⟩

/-- Merging keeps every document exactly if a tag of several maps has the same document in all. -/
theorem forall_within_merge_iff :
    (∀ m ∈ maps, m.Within (merge maps)) ↔ ∀ m ∈ maps, ∀ n ∈ maps, m.Agree n := by
  constructor
  · intro h m hm n hn entry he ht
    obtain ⟨d, hd⟩ := Table.contains_iff.1 ht
    have hmerged := (h n hn).get? hd
    rw [h m hm entry he] at hmerged
    rw [hd, hmerged]
  · intro h m hm entry he
    have hcontains : (merge maps).contains entry.1 = true :=
      contains_merge.2 ⟨m, hm, Table.contains_of_get? (Table.get?_eq_some_iff.2 he)⟩
    obtain ⟨d, hd⟩ := Table.contains_iff.1 hcontains
    obtain ⟨n, hn, hnd⟩ := mem_of_get?_merge hd
    rw [hd, ← h m hm n hn entry he (Table.contains_of_get? hnd), hnd]

end DocumentMap

end Provision
