import Provision.Pin
import Provision.Proofs.Document.Closed
import Provision.Proofs.Results

/-!
# How version pins are taken apart

`expandEach` goes through the documents of a map in the order of their tags and rewrites the map on
the way, so a pin's own map is cut out of a map in which the documents before it have already lost
their pins (`reducedBefore`). Taking pins out changes no edge and no tag (`edges_reduced`,
`get?_reduceAll`), and that is all that most results need to know. `expand_eq` says exactly what an
expansion gives: the reduced map last, and before it one map for every pinned entry, in their order,
cut out of the map as it was when the entry's turn came.
-/

namespace Provision

theorem Value.items?_eq_some_iff {v : Value} {l : List Value} :
    v.items? = some l ↔ v = .list l := by
  cases v <;> simp [items?]

theorem Value.text?_eq_some_iff {v : Value} {s : String} : v.text? = some s ↔ v = .str s := by
  cases v <;> simp [text?]

/-- The attributes of a document of some type, its list of packages without the pinned ones. -/
def Attributes.unpinned (a : Attributes) (type : ResourceType) : Attributes :=
  if type.isVersionAware then
    match (a.get? Document.namesKey).bind Value.items? with
    | some names => a.insert Document.namesKey (.list (names.filter (!·.isPinned)))
    | none => a
  else a

namespace Document

variable {d : Document} {entry : String} {pin : Pin}

/-- The pinned entries of a batch, in the order of its list. -/
def pins (d : Document) : List String :=
  ((d.batch?.getD []).filter (·.isPinned)).filterMap Value.text?

/-- Every pinned entry of a document says what it pins. -/
def Readable (d : Document) : Prop := ∀ entry ∈ d.pins, ∃ pin, Pin.ofEntry entry = .ok pin

/-- What is left of a document when its pinned entries are taken out. -/
def reduced (d : Document) : Document :=
  if d.pins.isEmpty then d else d.unpinned (d.batch?.getD [])

theorem reduced_of_pins_eq_nil (h : d.pins = []) : d.reduced = d := by
  unfold reduced
  rw [h]
  rfl

theorem filter_isPinned_of_pins_eq_nil {names : List Value} (hb : d.batch? = some names)
    (h : d.pins = []) : names.filter (!·.isPinned) = names := by
  unfold pins at h
  rw [hb, Option.getD_some, List.filterMap_eq_nil_iff] at h
  refine List.filter_eq_self.2 fun v hv => ?_
  cases hp : v.isPinned with
  | false => rfl
  | true =>
    -- only a text is pinned, and it would be among the pins
    have htext := h v (List.mem_filter.2 ⟨hv, hp⟩)
    cases v with
    | str entry => cases htext
    | _ => cases hp

/-- Taking pins out touches the list of packages only. -/
theorem reduced_eq : d.reduced = { d with attributes := d.attributes.unpinned d.resourceType } := by
  unfold Attributes.unpinned
  cases hv : d.resourceType.isVersionAware with
  | false => exact reduced_of_pins_eq_nil (by simp [pins, batch?, hv])
  | true =>
    have hbatch : d.batch? = (d.attributes.get? namesKey).bind Value.items? := if_pos hv
    cases hb : d.batch? with
    | none =>
      rw [if_pos rfl, ← hbatch, hb]
      exact reduced_of_pins_eq_nil (by simp [pins, hb])
    | some names =>
      rw [if_pos rfl, ← hbatch, hb]
      by_cases hpins : d.pins = []
      · obtain ⟨v, hget, hv⟩ := Option.bind_eq_some_iff.1 (hbatch.symm.trans hb)
        rw [Value.items?_eq_some_iff.1 hv] at hget
        dsimp only
        rw [reduced_of_pins_eq_nil hpins, filter_isPinned_of_pins_eq_nil hb hpins,
          Table.insert_of_get? hget]
      · unfold reduced
        rw [if_neg (by simpa using hpins), hb]
        rfl

@[simp] theorem requires_reduced : d.reduced.requires = d.requires := by
  rw [reduced_eq]

@[simp] theorem edges_reduced : d.reduced.edges = d.edges := by
  rw [reduced_eq]
  rfl

/-- The document of a pinned package has the batch's edges, apart from what the batch watches. -/
theorem edges_isolated : (d.isolated entry pin).edges = d.requires ++ d.requiredBy :=
  List.append_nil _

/-- The document of a pin has no edges that the batch lacks. -/
theorem mem_edges_of_isolated {e : Edge} (h : e ∈ (d.isolated entry pin).edges) : e ∈ d.edges := by
  rw [edges_isolated] at h
  exact List.mem_append_left _ h

end Document

/-- A pinned entry, with the batch that lists it and the batch's tag. -/
structure PinnedEntry where
  /-- The tag of the batch. -/
  tag : String
  /-- The batch. -/
  batch : Document
  /-- The entry in its list. -/
  entry : String

/-- The tag of the document of a pinned entry. -/
def pinTag (tag entry : String) : String := tag ++ "_" ++ entry

namespace DocumentMap

variable {m m' im : DocumentMap} {maps isolated : List DocumentMap} {t tag entry : String}
  {d : Document} {l : List (String × Document)}

/-! ## The map of one pin -/

/-- The map of a pin has what the batch's edges lead to and the document of the pin. -/
theorem isolate_eq_ok_iff : m.isolate tag d entry = .ok im ↔
    ∃ pin, Pin.ofEntry entry = .ok pin ∧
      im = (m.targets d).insert (pinTag tag entry) (d.isolated entry pin) := by
  unfold isolate
  rw [bind_eq_ok_iff]
  simp only [pure, Except.pure, Except.ok.injEq, eq_comm (a := im)]
  rfl

/-- The targets of a document are copied from the map as they are there. -/
theorem get?_targets {u : Document} : (m.targets d).get? t = some u ↔
    (∃ e ∈ d.edges, e.tag = t) ∧ m.get? t = some u := by
  have hcopied : ∀ {u'}, (m.targets d).get? t = some u' →
      (∃ e ∈ d.edges, e.tag = t) ∧ m.get? t = some u' := by
    intro u' h
    obtain ⟨e, he, hu⟩ := List.mem_filterMap.1 (Table.mem_of_get?_ofList h)
    obtain ⟨u'', hu'', heq⟩ := Option.map_eq_some_iff.1 hu
    cases heq
    exact ⟨⟨e, he, rfl⟩, hu''⟩
  -- all entries of one tag are copies of one document, so it does not matter which is written last
  refine ⟨hcopied, ?_⟩
  intro h
  obtain ⟨⟨e, he, rfl⟩, hu⟩ := h
  have hmem : (e.tag, u) ∈ d.edges.filterMap fun e => (m.get? e.tag).map (e.tag, ·) :=
    List.mem_filterMap.2 ⟨e, he, by rw [hu]; rfl⟩
  have hcontains : (m.targets d).contains e.tag = true :=
    Table.contains_insertAll.2 (.inl ⟨_, hmem, rfl⟩)
  obtain ⟨u', hu'⟩ := Table.contains_iff.1 hcontains
  rw [hu', ← (hcopied hu').2, hu]

theorem contains_targets : (m.targets d).contains t = true ↔
    (∃ e ∈ d.edges, e.tag = t) ∧ m.contains t = true := by
  rw [Table.contains_iff, Table.contains_iff]
  simp only [get?_targets, exists_and_left]

theorem refers_targets {part : Document → List Edge} {u : String} :
    (m.targets d).Refers part t u ↔ (∃ e ∈ d.edges, e.tag = t) ∧ m.Refers part t u := by
  unfold Refers
  simp only [get?_targets, and_assoc, exists_and_left]

/-! ## All pins of a map -/

/-- A map after the documents of a list have lost their pins. -/
def reduceAll (m : DocumentMap) (l : List (String × Document)) : DocumentMap :=
  m.insertAll (l.map fun entry => (entry.1, entry.2.reduced))

/-- The documents of a map without their pins. -/
def reduce (m : DocumentMap) : DocumentMap := m.reduceAll m.entries

/-- Some documents of a map are reduced and the others are as they were. -/
theorem get?_reduceAll (hl : l.Pairwise fun a b => a.1 ≠ b.1)
    (hm : ∀ e ∈ l, m.get? e.1 = some e.2) :
    (m.reduceAll l).get? t =
      if ∃ e ∈ l, e.1 = t then (m.get? t).map Document.reduced else m.get? t := by
  by_cases ht : ∃ e ∈ l, e.1 = t
  · rw [if_pos ht]
    obtain ⟨e, he, rfl⟩ := ht
    rw [hm e he]
    exact Table.get?_insertAll_of_mem (List.pairwise_map.2 hl) (List.mem_map.2 ⟨e, he, rfl⟩)
  · rw [if_neg ht]
    refine Table.get?_insertAll_of_forall_ne fun entry hentry heq => ht ?_
    obtain ⟨e, he, rfl⟩ := List.mem_map.1 hentry
    exact ⟨e, he, heq⟩

/-- In the last map all documents are reduced. -/
theorem get?_reduce : m.reduce.get? t = (m.get? t).map Document.reduced := by
  unfold reduce
  rw [get?_reduceAll Table.pairwise_ne fun e he => Table.get?_eq_some_iff.2 he]
  split
  · rfl
  · next ht =>
    cases hd : m.get? t with
    | none => rfl
    | some d => exact absurd ⟨(t, d), Table.get?_eq_some_iff.1 hd, rfl⟩ ht

theorem reduce_eq_map (m : DocumentMap) : m.reduce = m.map Document.reduced := by
  apply Table.ext_get?
  intro t
  rw [get?_reduce, Table.get?_map]

@[simp] theorem contains_reduce : m.reduce.contains t = m.contains t := by
  unfold Table.contains
  rw [get?_reduce, Option.isSome_map]

theorem contains_reduceAll (hl : l.Pairwise fun a b => a.1 ≠ b.1)
    (hm : ∀ e ∈ l, m.get? e.1 = some e.2) : (m.reduceAll l).contains t = m.contains t := by
  unfold Table.contains
  rw [get?_reduceAll hl hm]
  split
  · exact Option.isSome_map
  · rfl

/-- Documents that were reduced on the way have the edges that they had. -/
theorem refers_reduceAll {part : Document → List Edge} {u : String}
    (hpart : ∀ d : Document, part d.reduced = part d) (hl : l.Pairwise fun a b => a.1 ≠ b.1)
    (hm : ∀ e ∈ l, m.get? e.1 = some e.2) :
    (m.reduceAll l).Refers part t u ↔ m.Refers part t u := by
  refine refers_congr ?_
  rw [get?_reduceAll hl hm]
  split
  · cases m.get? t with
    | none => rfl
    | some d => exact congrArg some (hpart d)
  · rfl

/-- Taking pins out changes no edge. -/
theorem refers_reduce {part : Document → List Edge} {u : String}
    (hpart : ∀ d : Document, part d.reduced = part d) :
    m.reduce.Refers part t u ↔ m.Refers part t u :=
  refers_reduceAll hpart Table.pairwise_ne fun _ he => Table.get?_eq_some_iff.2 he

/-- The maps of a document's pins come out, and the document stays without them. -/
theorem expandAt_eq (hd : m.get? tag = some d) :
    m.expandAt tag d = (d.pins.mapM (m.isolate tag d)).map (·, m.insert tag d.reduced) := by
  unfold expandAt
  cases hb : d.batch? with
  | none =>
    have hpins : d.pins = [] := by
      unfold Document.pins
      rw [hb]
      rfl
    rw [Document.reduced_of_pins_eq_nil hpins, Table.insert_of_get? hd, hpins]
    rfl
  | some names =>
    have hpins : d.pins = (names.filter (·.isPinned)).filterMap Value.text? := by
      unfold Document.pins
      rw [hb]
      rfl
    dsimp only
    rw [← hpins]
    by_cases he : d.pins.isEmpty = true
    · have hnil : d.pins = [] := List.isEmpty_iff.1 he
      rw [if_pos he, Document.reduced_of_pins_eq_nil hnil, Table.insert_of_get? hd, hnil]
      rfl
    · have hreduced : d.reduced = d.unpinned names := by
        unfold Document.reduced
        rw [if_neg he, hb]
        rfl
      rw [if_neg he, hreduced]
      cases d.pins.mapM (m.isolate tag d) <;> rfl

/-! ## The maps of all pins -/

/-- The pinned entries of some documents, by document and place in the list. -/
def pinnedIn (l : List (String × Document)) : List PinnedEntry :=
  l.flatMap fun e => e.2.pins.map (⟨e.1, e.2, ·⟩)

/-- The pinned entries of a map, by tag and place in the list. -/
def pinned (m : DocumentMap) : List PinnedEntry := pinnedIn m.entries

/-- A map when the documents before a tag have lost their pins and the others still have them. -/
def reducedBefore (m : DocumentMap) (tag : String) : DocumentMap :=
  m.reduceAll (m.entries.filter fun e => Text.Before e.1 tag)

/-- The map of a pinned entry: cut out when its batch's turn has come. -/
def cut (m : DocumentMap) (p : PinnedEntry) : Except ConvertError DocumentMap :=
  (m.reducedBefore p.tag).isolate p.tag p.batch p.entry

/-- The pinned entries of a map are those of its batches. -/
theorem mem_pinned {p : PinnedEntry} :
    p ∈ m.pinned ↔ m.get? p.tag = some p.batch ∧ p.entry ∈ p.batch.pins := by
  unfold pinned pinnedIn
  rw [List.mem_flatMap, Table.get?_eq_some_iff]
  constructor
  · intro h
    obtain ⟨e, he, hp⟩ := h
    obtain ⟨entry, hentry, rfl⟩ := List.mem_map.1 hp
    exact ⟨he, hentry⟩
  · intro h
    obtain ⟨he, hentry⟩ := h
    exact ⟨_, he, List.mem_map.2 ⟨p.entry, hentry, rfl⟩⟩

/-- If only one tag can have a document with pins, the pinned entries of the map are those of it. -/
theorem pinned_eq (h : ∀ t d, m.get? t = some d → t ≠ tag → d.pins = []) :
    m.pinned = match m.get? tag with
      | some d => d.pins.map (⟨tag, d, ·⟩)
      | none => [] := by
  have hnone : ∀ l : List (String × Document), (∀ e ∈ l, m.get? e.1 = some e.2 ∧ e.1 ≠ tag) →
      pinnedIn l = [] := by
    intro l hl
    refine List.flatMap_eq_nil_iff.2 fun e he => ?_
    rw [h e.1 e.2 (hl e he).1 (hl e he).2, List.map_nil]
  cases hd : m.get? tag with
  | none =>
    refine hnone _ fun e he => ⟨Table.get?_eq_some_iff.2 he, fun heq => ?_⟩
    rw [← heq, Table.get?_eq_some_iff.2 he] at hd
    cases hd
  | some d =>
    -- the entries before the document and after it have other tags
    obtain ⟨before, after, hentries⟩ := List.append_of_mem (Table.get?_eq_some_iff.1 hd)
    have hne := Table.pairwise_ne (t := m)
    rw [hentries, List.pairwise_append] at hne
    obtain ⟨-, hrest, hbefore⟩ := hne
    have hall : ∀ e ∈ before ++ (tag, d) :: after, m.get? e.1 = some e.2 := fun e he =>
      Table.get?_eq_some_iff.2 (hentries ▸ he)
    have hfirst : pinnedIn before = [] := hnone _ fun e he =>
      ⟨hall e (List.mem_append_left _ he), hbefore e he _ (List.mem_cons_self ..)⟩
    have hlast : pinnedIn after = [] := hnone _ fun e he =>
      ⟨hall e (List.mem_append_right _ (List.mem_cons_of_mem _ he)),
        ((List.pairwise_cons.1 hrest).1 e he).symm⟩
    have hsplit : m.pinned = pinnedIn before ++ (d.pins.map (⟨tag, d, ·⟩) ++ pinnedIn after) := by
      unfold pinned pinnedIn
      rw [hentries, List.flatMap_append, List.flatMap_cons]
    rw [hsplit, hfirst, hlast, List.nil_append, List.append_nil]

theorem pairwise_before (m : DocumentMap) (tag : String) :
    (m.entries.filter fun e => Text.Before e.1 tag).Pairwise fun a b => a.1 ≠ b.1 :=
  Table.pairwise_ne.filter _

theorem get?_of_mem_before {e : String × Document}
    (he : e ∈ m.entries.filter fun e => Text.Before e.1 tag) : m.get? e.1 = some e.2 :=
  Table.get?_eq_some_iff.2 (List.mem_filter.1 he).1

/-- Exactly the documents before the tag are without their pins. -/
theorem get?_reducedBefore : (m.reducedBefore tag).get? t =
    if Text.Before t tag then (m.get? t).map Document.reduced else m.get? t := by
  unfold reducedBefore
  rw [get?_reduceAll (m.pairwise_before tag) fun _ he => get?_of_mem_before he]
  by_cases ht : Text.Before t tag
  · rw [if_pos ht]
    cases hd : m.get? t with
    | none => simp
    | some d =>
      refine if_pos ⟨(t, d), List.mem_filter.2 ⟨Table.get?_eq_some_iff.1 hd, ?_⟩, rfl⟩
      simpa using ht
  · rw [if_neg ht, if_neg]
    intro h
    obtain ⟨e, he, rfl⟩ := h
    exact ht (by simpa using (List.mem_filter.1 he).2)

/-- When a batch's turn comes, the batches before it are reduced already. -/
theorem reducedBefore_of_entries_eq {before after : List (String × Document)}
    (h : m.entries = before ++ (tag, d) :: after) : m.reducedBefore tag = m.reduceAll before := by
  unfold reducedBefore
  rw [Table.filter_before_of_entries_eq h]

/-- A pass over the last documents of a map, when the ones before them have lost their pins. -/
theorem expandEach_eq (before : List (String × Document)) (h : m.entries = before ++ l) :
    (m.reduceAll before).expandEach l = ((pinnedIn l).mapM m.cut).map (·, m.reduce) := by
  induction l generalizing before with
  | nil =>
    rw [List.append_nil] at h
    rw [← h]
    rfl
  | cons e l ih =>
    obtain ⟨tag, d⟩ := e
    -- the document whose turn it is still has its pins
    have hd : (m.reduceAll before).get? tag = some d := by
      rw [← reducedBefore_of_entries_eq h, get?_reducedBefore, if_neg (Text.Before.irrefl tag)]
      exact (Table.of_entries_eq h).1
    have hrest : Table.insert (m.reduceAll before) tag d.reduced =
        m.reduceAll (before ++ [(tag, d)]) := by
      unfold reduceAll Table.insertAll
      rw [List.map_append, List.foldl_append]
      rfl
    have hpins : (d.pins.map (⟨tag, d, ·⟩)).mapM m.cut
        = d.pins.mapM ((m.reduceAll before).isolate tag d) := by
      rw [List.mapM_map, ← reducedBefore_of_entries_eq h]
      rfl
    have hsplit : pinnedIn ((tag, d) :: l) = d.pins.map (⟨tag, d, ·⟩) ++ pinnedIn l := rfl
    rw [expandEach, expandAt_eq hd, hrest, hsplit, List.mapM_append, hpins]
    cases d.pins.mapM ((m.reduceAll before).isolate tag d) with
    | error e => rfl
    | ok first =>
      have htail := ih (before ++ [(tag, d)]) (by rw [h, List.append_assoc]; rfl)
      show (expandEach (m.reduceAll (before ++ [(tag, d)])) l >>= _) = _
      rw [htail]
      cases (pinnedIn l).mapM m.cut <;> rfl

/-- An expansion gives one map for every pin, by tag and place in the list, and the reduced map
last. -/
theorem expand_eq : m.expand =
    if m.isEmpty then .error (.expandFailure .noDocuments)
    else (m.pinned.mapM m.cut).map (· ++ [m.reduce]) := by
  unfold expand
  split
  · rfl
  · have hall : m.expandEach m.entries = (m.pinned.mapM m.cut).map (·, m.reduce) :=
      expandEach_eq [] rfl
    rw [hall]
    cases m.pinned.mapM m.cut <;> rfl

/-- An expansion gives one map for each pinned entry and the reduced map at the end. -/
theorem expand_eq_ok_iff : m.expand = .ok maps ↔
    m.isEmpty = false ∧ ∃ isolated, m.pinned.mapM m.cut = .ok isolated ∧
    maps = isolated ++ [m.reduce] := by
  rw [expand_eq]
  cases m.isEmpty with
  | true => simp
  | false =>
    simp only [Bool.false_eq_true, if_false, map_eq_ok_iff, true_and, eq_comm (a := maps)]

/-- Every pin of an expanded map can be read, and has its map. -/
theorem expand_eq_ok (h : m.expand = .ok maps) :
    ∃ isolated, maps = isolated ++ [m.reduce] ∧ (∀ t d, m.get? t = some d → d.Readable) ∧
      ∀ im, im ∈ isolated ↔ ∃ p ∈ m.pinned, m.cut p = .ok im := by
  obtain ⟨-, isolated, hcut, rfl⟩ := expand_eq_ok_iff.1 h
  refine ⟨isolated, rfl, fun t d hd entry hentry => ?_, fun im => mem_iff_of_mapM_eq_ok hcut⟩
  have : Inhabited DocumentMap := ⟨∅⟩
  obtain ⟨g, hg, -⟩ := mapM_eq_ok_iff.1 hcut
  obtain ⟨pin, hpin, -⟩ := isolate_eq_ok_iff.1 (hg ⟨t, d, entry⟩ (mem_pinned.2 ⟨hd, hentry⟩))
  exact ⟨pin, hpin⟩

end DocumentMap

end Provision
