import Provision.Proofs.Document.Merge

/-!
# Document maps whose edges resolve

An edge of a document means the document of the same map with the edge's tag. A map is `Closed` if
there is one for every edge. Being closed says nothing about which document stands under a tag, so
it survives that documents are written over others: a union of closed maps is closed
(`Closed.union`), and so is a merge (`closed_merge`).
-/

namespace Provision

/-- Every edge of the document leads to a tag of the map. -/
def Document.Resolves (d : Document) (m : DocumentMap) : Prop :=
  ∀ e ∈ d.edges, m.contains e.tag = true

instance {d : Document} {m : DocumentMap} : Decidable (d.Resolves m) :=
  inferInstanceAs (Decidable (∀ e ∈ d.edges, m.contains e.tag = true))

/-- Every edge of every document of the map leads to a tag of the map. -/
def DocumentMap.Closed (m : DocumentMap) : Prop := ∀ entry ∈ m.entries, entry.2.Resolves m

instance {m : DocumentMap} : Decidable m.Closed :=
  inferInstanceAs (Decidable (∀ entry ∈ m.entries, entry.2.Resolves m))

namespace Document

variable {d : Document} {m n : DocumentMap} {e : Edge}

theorem mem_edges : e ∈ d.edges ↔ e ∈ d.requires ∨ e ∈ d.requiredBy ∨ e ∈ d.watches := by
  unfold edges
  rw [List.append_assoc, List.mem_append, List.mem_append]

/-- A document keeps its targets as long as no tag gets lost. -/
theorem Resolves.mono (h : d.Resolves m) (hmn : ∀ t, m.contains t = true → n.contains t = true) :
    d.Resolves n :=
  fun e he => hmn e.tag (h e he)

theorem resolves_of_edges_eq_nil (h : d.edges = []) : d.Resolves m := by
  unfold Resolves
  rw [h]
  intro e he
  cases he

theorem requires_of_edges_eq_nil (h : d.edges = []) : d.requires = [] := by
  unfold edges at h
  exact (List.append_eq_nil_iff.1 (List.append_eq_nil_iff.1 h).1).1

end Document

namespace DocumentMap

variable {m n : DocumentMap} {maps : List DocumentMap} {t u : String} {d : Document}
  {e : Edge} {part : Document → List Edge}

/-- A map's list of edges has one for each of its documents. -/
theorem mem_edges : e ∈ m.edges ↔ ∃ d, m.get? e.tag = some d ∧ d.resourceType = e.resourceType := by
  unfold edges
  rw [List.mem_map]
  constructor
  · intro h
    obtain ⟨⟨t, d⟩, hd, rfl⟩ := h
    exact ⟨d, Table.get?_eq_some_iff.2 hd, rfl⟩
  · intro h
    obtain ⟨d, hd, htype⟩ := h
    exact ⟨(e.tag, d), Table.get?_eq_some_iff.1 hd, by rw [htype]⟩

theorem contains_of_mem_edges (h : e ∈ m.edges) : m.contains e.tag = true := by
  obtain ⟨d, hd, -⟩ := mem_edges.1 h
  exact Table.contains_of_get? hd

/-- A map's edges lead to its tags and to no others. -/
theorem contains_iff_mem_edges : m.contains t = true ↔ ∃ e ∈ m.edges, e.tag = t := by
  constructor
  · intro h
    obtain ⟨d, hd⟩ := Table.contains_iff.1 h
    exact ⟨⟨d.resourceType, t⟩, mem_edges.2 ⟨d, hd, rfl⟩, rfl⟩
  · intro h
    obtain ⟨e, he, rfl⟩ := h
    exact contains_of_mem_edges he

theorem closed_iff : m.Closed ↔ ∀ t d, m.get? t = some d → d.Resolves m := by
  constructor
  · intro h t d hd
    exact h (t, d) (Table.get?_eq_some_iff.1 hd)
  · intro h entry he
    exact h entry.1 entry.2 (Table.get?_eq_some_iff.2 he)

/-- The document at one tag refers to the other tag, by edges of some kind. -/
def Refers (part : Document → List Edge) (m : DocumentMap) (t u : String) : Prop :=
  ∃ d, m.get? t = some d ∧ ∃ e ∈ part d, e.tag = u

instance : Decidable (m.Refers part t u) :=
  decidable_of_iff ((m.get? t).any fun d => (part d).any fun e => e.tag == u) <| by
    unfold Refers
    cases m.get? t <;> simp

/-- Only the edges count, not the rest of the documents. -/
theorem refers_congr (h : (m.get? t).map part = (n.get? t).map part) :
    m.Refers part t u ↔ n.Refers part t u := by
  have hlist : ∀ m : DocumentMap, m.Refers part t u ↔
      ∃ l, (m.get? t).map part = some l ∧ ∃ e ∈ l, e.tag = u := by
    intro m
    unfold Refers
    cases m.get? t <;> simp
  rw [hlist, hlist, h]

theorem Refers.contains (h : m.Refers part t u) : m.contains t = true := by
  obtain ⟨d, hd, -⟩ := h
  exact Table.contains_of_get? hd

/-- A map is closed if no document refers to anything that is not there. -/
theorem closed_iff_refers : m.Closed ↔
    ∀ t u, m.Refers Document.edges t u → m.contains u = true := by
  rw [closed_iff]
  constructor
  · intro h t u hedge
    obtain ⟨d, hd, e, he, rfl⟩ := hedge
    exact h t d hd e he
  · intro h t d hd e he
    exact h t e.tag ⟨d, hd, e, he, rfl⟩

theorem Closed.contains_of_refers (hm : m.Closed) (h : m.Refers Document.edges t u) :
    m.contains u = true :=
  closed_iff_refers.1 hm t u h

/-- A document that is put in brings its own edges and replaces those of the document before. -/
theorem refers_insert {k : String} : Refers part (m.insert k d) t u ↔
    (t = k ∧ ∃ e ∈ part d, e.tag = u) ∨ (t ≠ k ∧ m.Refers part t u) := by
  unfold Refers
  rw [Table.get?_insert]
  by_cases ht : t = k
  · simp [ht]
  · simp [ht]

/-- In a union the edges at a tag of the second map are those of this map. -/
theorem refers_union_of_contains (h : n.contains t = true) :
    Refers part (m.union n) t u ↔ n.Refers part t u := by
  obtain ⟨d, hd⟩ := Table.contains_iff.1 h
  unfold Refers
  rw [Table.get?_union, hd]
  rfl

/-- At all other tags they are those of the first one. -/
theorem refers_union_of_not_contains (h : ¬ n.contains t = true) :
    Refers part (m.union n) t u ↔ m.Refers part t u := by
  have hn : n.get? t = none := by
    unfold Table.contains at h
    exact Option.not_isSome_iff_eq_none.1 h
  unfold Refers
  rw [Table.get?_union, hn]
  rfl

theorem closed_empty : (∅ : DocumentMap).Closed := fun _ h => by cases h

/-- A closed map may write over the documents of another one. -/
theorem Closed.union (hm : m.Closed) (hn : n.Closed) : Closed (m.union n) := by
  rw [closed_iff] at hm hn ⊢
  intro t d hd
  rw [Table.get?_union] at hd
  rcases Option.or_eq_some_iff.1 hd with hnd | ⟨-, hmd⟩
  · exact (hn t d hnd).mono fun _ h => Table.contains_union.2 (.inl h)
  · exact (hm t d hmd).mono fun _ h => Table.contains_union.2 (.inr h)

theorem closed_merge (h : ∀ m ∈ maps, m.Closed) : (merge maps).Closed :=
  merge_induction closed_empty fun _ hacc m hm => hacc.union (h m hm)

/-- Documents may be written over a closed map if their edges resolve in the result. -/
theorem Closed.insertAll {l : List (String × Document)} (hm : m.Closed)
    (hl : ∀ entry ∈ l, entry.2.Resolves (m.insertAll l)) : Closed (m.insertAll l) := by
  rw [closed_iff] at hm ⊢
  intro t d hd
  rcases Table.get?_insertAll_or hd with hmem | ⟨-, hmd⟩
  · exact hl (t, d) hmem
  · exact (hm t d hmd).mono fun _ h => Table.contains_insertAll.2 (.inr h)

end DocumentMap

end Provision
