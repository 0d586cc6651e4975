import Mathlib.Data.List.Nodup
import Mathlib.Data.Set.Function
import Provision.Proofs.Document.Closed

/-!
# Document maps under other tags

A map is `Relabelled` from another one by a function on tags if it has the same documents under
their new tags, with their edges led to the new tags, and if no two tags have become one. This says
nothing about the order of the tags, which a map's list of edges and its walks depend on: where the
function keeps the order, the entries are the same one by one (`Relabelled.entries_eq`). Maps that
are built in the same way from relabelled parts are relabelled (`Relabelled.insertAll`,
`Relabelled.filter`, `Relabelled.map`).
-/

namespace Provision

/-- The edge to the new tag of its target. -/
def Edge.relabel (f : String → String) (e : Edge) : Edge := { e with tag := f e.tag }

/-- The document with its edges to the new tags. -/
def Document.relabel (f : String → String) (d : Document) : Document :=
  { d with
    requires := d.requires.map (Edge.relabel f)
    requiredBy := d.requiredBy.map (Edge.relabel f)
    watches := d.watches.map (Edge.relabel f) }

/-- A map has the documents of another one under their new tags and with edges to the new tags. -/
structure DocumentMap.Relabelled (f : String → String) (m m' : DocumentMap) : Prop where
  /-- Every tag has a new one of its own, in whatever order these stand. -/
  keys : m'.keys.Perm (m.keys.map f)
  /-- Under the new tag there is the document of the old one. -/
  get? : ∀ t d, m.get? t = some d → m'.get? (f t) = some (d.relabel f)

variable {f : String → String}

theorem Edge.relabel_eq_self {e : Edge} (h : f e.tag = e.tag) : e.relabel f = e := by
  unfold relabel
  rw [h]

namespace Document

variable {d : Document}

theorem edges_relabel : (d.relabel f).edges = d.edges.map (Edge.relabel f) := by
  simp [edges, relabel]

/-- Where the tags of all edges stay, the document does. -/
theorem relabel_eq_self (h : ∀ e ∈ d.edges, f e.tag = e.tag) : d.relabel f = d := by
  have hlist : ∀ l : List Edge, (∀ e ∈ l, e ∈ d.edges) → l.map (Edge.relabel f) = l := fun l hl =>
    (List.map_congr_left fun e he => Edge.relabel_eq_self (h e (hl e he))).trans (List.map_id l)
  unfold relabel
  rw [hlist d.requires fun e he => mem_edges.2 (.inl he),
    hlist d.requiredBy fun e he => mem_edges.2 (.inr (.inl he)),
    hlist d.watches fun e he => mem_edges.2 (.inr (.inr he))]

end Document

namespace DocumentMap

variable {m m' : DocumentMap} {t u k : String} {d : Document} {l : List (String × Document)}

/-- The entry of a document under its new tag. -/
def relabelEntry (f : String → String) (e : String × Document) : String × Document :=
  (f e.1, e.2.relabel f)

/-- Relabelling by look-ups: no two tags become one, and what the new map has is what the old one
had. -/
theorem relabelled_iff : m.Relabelled f m' ↔
    (∀ t u, m.contains t = true → m.contains u = true → f t = f u → t = u) ∧
      ∀ u d', m'.get? u = some d' ↔ ∃ t d, m.get? t = some d ∧ f t = u ∧ d.relabel f = d' := by
  constructor
  · intro h
    have hinj := List.inj_on_of_nodup_map (h.keys.nodup_iff.1 Table.nodup_keys)
    refine ⟨fun t u ht hu => hinj (Table.mem_keys.2 ht) (Table.mem_keys.2 hu), fun u d' =>
      ⟨fun hd' => ?_, ?_⟩⟩
    · obtain ⟨t, ht, rfl⟩ := List.mem_map.1
        (h.keys.mem_iff.1 (Table.mem_keys.2 (Table.contains_of_get? hd')))
      obtain ⟨d, hd⟩ := Table.contains_iff.1 (Table.mem_keys.1 ht)
      rw [h.get? t d hd] at hd'
      exact ⟨t, d, hd, rfl, Option.some.inj hd'⟩
    · rintro ⟨t, d, hd, rfl, rfl⟩
      exact h.get? t d hd
  · intro h
    obtain ⟨hinj, hget⟩ := h
    refine ⟨?_, fun t d hd => (hget _ _).2 ⟨t, d, hd, rfl, rfl⟩⟩
    have hnodup : (m.keys.map f).Nodup := List.Nodup.map_on
      (fun t ht u hu => hinj t u (Table.mem_keys.1 ht) (Table.mem_keys.1 hu)) Table.nodup_keys
    rw [List.perm_ext_iff_of_nodup Table.nodup_keys hnodup]
    intro u
    rw [Table.mem_keys, Table.contains_iff, List.mem_map]
    simp only [hget, Table.mem_keys, Table.contains_iff]
    constructor
    · rintro ⟨d', t, d, hd, rfl, rfl⟩
      exact ⟨t, ⟨d, hd⟩, rfl⟩
    · rintro ⟨t, ⟨d, hd⟩, rfl⟩
      exact ⟨_, t, d, hd, rfl, rfl⟩

/-- A relabelling does not bring two tags of the map together. -/
theorem Relabelled.injective (h : m.Relabelled f m') (ht : m.contains t = true)
    (hu : m.contains u = true) (heq : f t = f u) : t = u :=
  (relabelled_iff.1 h).1 t u ht hu heq

/-- Every document of the new map comes from one of the old map. -/
theorem Relabelled.get?_iff (h : m.Relabelled f m') {d' : Document} :
    m'.get? u = some d' ↔ ∃ t d, m.get? t = some d ∧ f t = u ∧ d.relabel f = d' :=
  (relabelled_iff.1 h).2 u d'

/-- Under the new tag of a tag that the old map does not have, nothing stands. -/
theorem Relabelled.get?_eq (h : m.Relabelled f m')
    (hinj : ∀ u, m.contains u = true → f u = f t → u = t) :
    m'.get? (f t) = (m.get? t).map (Document.relabel f) := by
  cases hd : m.get? t with
  | some d => exact h.get? t d hd
  | none =>
    rw [Option.map_none, Option.eq_none_iff_forall_ne_some]
    intro d' hd'
    obtain ⟨u, d, hu, heq, -⟩ := h.get?_iff.1 hd'
    rw [hinj u (Table.contains_of_get? hu) heq, hd] at hu
    cases hu

theorem Relabelled.isEmpty_eq (h : m.Relabelled f m') : m'.isEmpty = m.isEmpty := by
  have hlength := h.keys.length_eq
  rw [List.length_map, Table.length_keys, Table.length_keys] at hlength
  unfold Table.isEmpty
  rw [Bool.eq_iff_iff, List.isEmpty_iff_length_eq_zero, List.isEmpty_iff_length_eq_zero]
  unfold Table.size at hlength
  omega

/-- Tags that stay as they are leave the entries as they are. -/
theorem map_relabelEntry_eq_self (hkeys : ∀ t, m.contains t = true → f t = t)
    (hedges : ∀ t d, m.get? t = some d → ∀ e ∈ d.edges, f e.tag = e.tag) :
    m.entries.map (relabelEntry f) = m.entries := by
  refine (List.map_congr_left fun e he => ?_).trans (List.map_id _)
  have hd : m.get? e.1 = some e.2 := Table.get?_eq_some_iff.2 he
  unfold relabelEntry
  rw [hkeys e.1 (Table.contains_of_get? hd), Document.relabel_eq_self (hedges e.1 e.2 hd)]
  rfl

/-- A map in which the relabelling changes nothing is its own relabelled one. -/
theorem relabelled_self (h : m.entries.map (relabelEntry f) = m.entries) : m.Relabelled f m := by
  refine ⟨?_, fun t d hd => ?_⟩
  · unfold Table.keys
    rw [List.map_map]
    conv_lhs => rw [← h, List.map_map]
    exact List.Perm.refl _
  · have hmem : relabelEntry f (t, d) ∈ m.entries := by
      rw [← h]
      exact List.mem_map_of_mem (Table.get?_eq_some_iff.1 hd)
    exact Table.get?_eq_some_iff.2 hmem

theorem relabelled_empty : (∅ : DocumentMap).Relabelled f ∅ :=
  ⟨List.Perm.nil, fun _ _ h => by cases h⟩

/-- A document may be written into both maps if its new tag is that of no other document. -/
theorem Relabelled.insert (h : m.Relabelled f m')
    (hinj : ∀ t, m.contains t = true → f t = f k → t = k) :
    DocumentMap.Relabelled f (m.insert k d) (m'.insert (f k) (d.relabel f)) := by
  rw [relabelled_iff]
  constructor
  · intro t u ht hu heq
    rcases Table.contains_insert.1 ht with htk | ht <;>
      rcases Table.contains_insert.1 hu with huk | hu
    · rw [htk, huk]
    · rw [htk, hinj u hu (by rw [← heq, htk])]
    · rw [huk, hinj t ht (by rw [heq, huk])]
    · exact h.injective ht hu heq
  · intro u d'
    simp only [Table.get?_insert]
    by_cases hu : u = f k
    · rw [if_pos hu, Option.some.injEq]
      constructor
      · rintro rfl
        exact ⟨k, d, if_pos rfl, hu.symm, rfl⟩
      · rintro ⟨t, d₁, hd₁, ht, rfl⟩
        by_cases htk : t = k
        · rw [if_pos htk] at hd₁
          rw [Option.some.inj hd₁]
        · rw [if_neg htk] at hd₁
          exact absurd (hinj t (Table.contains_of_get? hd₁) (ht.trans hu)) htk
    · rw [if_neg hu, h.get?_iff]
      constructor
      · rintro ⟨t, d₁, hd₁, rfl, rfl⟩
        exact ⟨t, d₁, by rw [if_neg fun htk => hu (congrArg f htk), hd₁], rfl, rfl⟩
      · rintro ⟨t, d₁, hd₁, rfl, rfl⟩
        rw [if_neg fun htk => hu (congrArg f htk)] at hd₁
        exact ⟨t, d₁, hd₁, rfl, rfl⟩

/-- Documents that are put in on both sides keep the maps relabelled, as long as no two tags come
together. -/
theorem Relabelled.insertAll {tags : Set String} (hinj : tags.InjOn f) (h : m.Relabelled f m')
    (hm : ∀ t, m.contains t = true → t ∈ tags) (hl : ∀ e ∈ l, e.1 ∈ tags) :
    DocumentMap.Relabelled f (m.insertAll l) (m'.insertAll (l.map (relabelEntry f))) := by
  induction l generalizing m m' with
  | nil => exact h
  | cons e l ih =>
    obtain ⟨he, hl⟩ := List.forall_mem_cons.1 hl
    refine ih (h.insert fun t ht heq => hinj (hm t ht) he heq) (fun t ht => ?_) hl
    rcases Table.contains_insert.1 ht with rfl | ht
    · exact he
    · exact hm t ht

/-- What is asked of documents without regard to their edges can be asked of both maps. -/
theorem Relabelled.filter (h : m.Relabelled f m') {p : Document → Bool}
    (hp : ∀ d, p (d.relabel f) = p d) :
    DocumentMap.Relabelled f (m.filter fun _ d => p d) (m'.filter fun _ d => p d) := by
  have hget : ∀ {m : DocumentMap} {t d}, (m.filter fun _ d => p d).get? t = some d ↔
      m.get? t = some d ∧ p d = true := by
    intro m t d
    rw [Table.get?_filter, Option.filter_eq_some_iff]
  have hcontains : ∀ {t}, (m.filter fun _ d => p d).contains t = true → m.contains t = true := by
    intro t ht
    obtain ⟨d, hd⟩ := Table.contains_iff.1 ht
    exact Table.contains_of_get? (hget.1 hd).1
  rw [relabelled_iff]
  refine ⟨fun t u ht hu => h.injective (hcontains ht) (hcontains hu), fun u d' => ?_⟩
  simp only [hget, h.get?_iff]
  constructor
  · rintro ⟨⟨t, d, hd, rfl, rfl⟩, hpd⟩
    exact ⟨t, d, ⟨hd, (hp d).symm.trans hpd⟩, rfl, rfl⟩
  · rintro ⟨t, d, ⟨hd, hpd⟩, rfl, rfl⟩
    exact ⟨⟨t, d, hd, rfl, rfl⟩, (hp d).trans hpd⟩

/-- What is done to documents without regard to their edges can be done to both maps. -/
theorem Relabelled.map (h : m.Relabelled f m') {g : Document → Document}
    (hg : ∀ d, g (d.relabel f) = (g d).relabel f) :
    DocumentMap.Relabelled f (Table.map g m) (Table.map g m') := by
  have hkeys : ∀ m : DocumentMap, (Table.map g m).keys = m.keys := fun m => List.map_map ..
  refine ⟨?_, fun t d hd => ?_⟩
  · rw [hkeys, hkeys]
    exact h.keys
  · rw [Table.get?_map] at hd ⊢
    obtain ⟨d₀, hd₀, rfl⟩ := Option.map_eq_some_iff.1 hd
    rw [h.get? t d₀ hd₀, Option.map_some, hg]

/-! ## Tags that keep their order -/

/-- If the order of the tags is kept, the entries are the same one by one. -/
theorem Relabelled.entries_eq (h : m.Relabelled f m')
    (hmono : ∀ t u, m.contains t = true → m.contains u = true → Text.Before t u →
      Text.Before (f t) (f u)) :
    m'.entries = m.entries.map (relabelEntry f) := by
  have hmem : ∀ {e}, e ∈ m.entries → m.contains e.1 = true := fun he =>
    Table.contains_of_get? (Table.get?_eq_some_iff.2 he)
  have hsorted : (m.entries.map (relabelEntry f)).Pairwise fun a b => Text.Before a.1 b.1 :=
    List.pairwise_map.2 (m.sorted.imp_of_mem fun ha hb => hmono _ _ (hmem ha) (hmem hb))
  -- both lists ascend, so they are the lists of two tables, and these have the same look-ups
  have htables : m' = ⟨m.entries.map (relabelEntry f), hsorted⟩ := by
    apply Table.ext_get?
    intro u
    ext d'
    rw [h.get?_iff, Table.get?_eq_some_iff, List.mem_map]
    constructor
    · rintro ⟨t, d, hd, rfl, rfl⟩
      exact ⟨(t, d), Table.get?_eq_some_iff.1 hd, rfl⟩
    · rintro ⟨⟨t, d⟩, hd, heq⟩
      cases heq
      exact ⟨t, d, Table.get?_eq_some_iff.2 hd, rfl, rfl⟩
  rw [htables]

theorem edges_eq_of_entries_eq (h : m'.entries = m.entries.map (relabelEntry f)) :
    m'.edges = m.edges.map (Edge.relabel f) := by
  unfold edges
  rw [h, List.map_map, List.map_map]
  rfl

end DocumentMap

end Provision
