import Provision.Proofs.Document.Relabelled
import Provision.Proofs.Expansion.Copies

/-!
# Version pins under other tags

An expansion goes through a map by tag, so other tags could change what comes out: the order of the
pins' maps, which batches have lost their pins when a map is cut out, and which documents are
copied. None of this happens if the tags of the batches that list pins keep their order, and if the
tag of a pinned package changes with that of its batch (`KeepsPins`). Where documents without pins
stand does not matter, as nothing is taken out of them. Then both expansions fail with one error, or
give the same maps one by one, under the new tags (`expand_relabelled`).
-/

namespace Provision

variable {f : String → String}

namespace Document

variable {d : Document} {entry : String} {pin : Pin}

theorem pins_relabel : (d.relabel f).pins = d.pins := rfl

theorem reduced_relabel : (d.relabel f).reduced = d.reduced.relabel f := by
  unfold reduced
  rw [pins_relabel]
  split <;> rfl

theorem isolated_relabel :
    (d.relabel f).isolated entry pin = (d.isolated entry pin).relabel f := rfl

end Document

/-- The pinned entry with the new tag of its batch. -/
def PinnedEntry.relabel (f : String → String) (p : PinnedEntry) : PinnedEntry :=
  { p with tag := f p.tag, batch := p.batch.relabel f }

namespace DocumentMap

variable {m m' a : DocumentMap} {maps : List DocumentMap} {tags : Set String} {t u : String}
  {d : Document} {l : List (String × Document)} {p : PinnedEntry}

/-- The new tags of a map, also those that an expansion needs, are all different, and they keep what
an expansion looks at. -/
structure KeepsPins (f : String → String) (tags : Set String) (m : DocumentMap) : Prop where
  /-- No two of the tags become one. -/
  injective : tags.InjOn f
  /-- The map's own tags are among them. -/
  keys : ∀ t, m.contains t = true → t ∈ tags
  /-- What the documents refer to is among them. -/
  targets : ∀ t d, m.get? t = some d → ∀ e ∈ d.edges, e.tag ∈ tags
  /-- Batches that list pins keep their order. -/
  order : ∀ t u, m.PinnedAt t → m.PinnedAt u → Text.Before t u → Text.Before (f t) (f u)
  /-- The tag of a pinned package is among them. -/
  pinTag_mem : ∀ p ∈ m.pinned, pinTag p.tag p.entry ∈ tags
  /-- The tag of a pinned package changes with that of its batch. -/
  pinTag_eq : ∀ p ∈ m.pinned, f (pinTag p.tag p.entry) = pinTag (f p.tag) p.entry

theorem pinnedAt_of_mem_pinned (h : p ∈ m.pinned) : m.PinnedAt p.tag :=
  ⟨p.batch, (mem_pinned.1 h).1, List.ne_nil_of_mem (mem_pinned.1 h).2⟩

/-! ## Which entries are pinned -/

/-- Documents without pins can be left out. -/
theorem pinnedIn_filter : pinnedIn (l.filter fun e => !e.2.pins.isEmpty) = pinnedIn l := by
  unfold pinnedIn
  induction l with
  | nil => rfl
  | cons e l ih =>
    rw [List.flatMap_cons, ← ih]
    by_cases hpins : e.2.pins = []
    · rw [List.filter_cons_of_neg (by simpa using hpins), hpins]
      rfl
    · rw [List.filter_cons_of_pos (by simpa using hpins), List.flatMap_cons]

theorem pinnedIn_relabel :
    pinnedIn (l.map (relabelEntry f)) = (pinnedIn l).map (PinnedEntry.relabel f) := by
  unfold pinnedIn
  rw [List.flatMap_map, List.map_flatMap]
  simp only [List.map_map]
  rfl

/-- The same entries are pinned, in the same order. -/
theorem pinned_relabelled (hk : KeepsPins f tags m) (h : m.Relabelled f m') :
    m'.pinned = m.pinned.map (PinnedEntry.relabel f) := by
  have hfiltered := h.filter (p := fun d => !d.pins.isEmpty) fun _ => rfl
  have hpinnedAt : ∀ t, (m.filter fun _ d => !d.pins.isEmpty).contains t = true → m.PinnedAt t := by
    intro t ht
    obtain ⟨d, hd⟩ := Table.contains_iff.1 ht
    rw [Table.get?_filter, Option.filter_eq_some_iff] at hd
    exact ⟨d, hd.1, by simpa using hd.2⟩
  have hentries :=
    hfiltered.entries_eq fun t u ht hu => hk.order t u (hpinnedAt t ht) (hpinnedAt u hu)
  have hpinned := congrArg pinnedIn hentries
  rw [pinnedIn_relabel] at hpinned
  have hleft : pinnedIn (m'.filter fun _ d => !d.pins.isEmpty).entries = m'.pinned :=
    pinnedIn_filter
  have hright : pinnedIn (m.filter fun _ d => !d.pins.isEmpty).entries = m.pinned := pinnedIn_filter
  rw [hleft, hright] at hpinned
  exact hpinned

/-! ## The maps of the pins -/

/-- Of two batches that list pins, the same one stands before the other. -/
theorem before_relabelled_iff (hk : KeepsPins f tags m) (ht : m.PinnedAt t) (hu : m.PinnedAt u) :
    Text.Before (f t) (f u) ↔ Text.Before t u := by
  constructor
  · intro hbefore
    by_cases heq : t = u
    · rw [heq] at hbefore
      exact absurd hbefore (Text.Before.irrefl _)
    · refine (Text.before_or_before heq).resolve_right fun hafter => ?_
      exact Text.Before.irrefl _ (hbefore.trans (hk.order u t hu ht hafter))
  · exact hk.order t u ht hu

/-- When a batch's turn has come, the same batches have lost their pins. -/
theorem reducedBefore_relabelled (hk : KeepsPins f tags m) (h : m.Relabelled f m')
    (hp : p ∈ m.pinned) :
    DocumentMap.Relabelled f (m.reducedBefore p.tag) (m'.reducedBefore (f p.tag)) := by
  have hkeys : ∀ {m : DocumentMap} {tag}, (m.reducedBefore tag).keys.Perm m.keys := by
    intro m tag
    rw [List.perm_ext_iff_of_nodup Table.nodup_keys Table.nodup_keys]
    intro t
    rw [Table.mem_keys, Table.mem_keys]
    exact Bool.eq_iff_iff.1
      (contains_reduceAll (m.pairwise_before tag) fun _ he => get?_of_mem_before he)
  refine ⟨(hkeys.trans h.keys).trans (hkeys.symm.map f), fun t d hd => ?_⟩
  rw [get?_reducedBefore] at hd ⊢
  cases hd₀ : m.get? t with
  | none =>
    rw [hd₀] at hd
    split at hd <;> cases hd
  | some d₀ =>
    rw [hd₀] at hd
    rw [h.get? t d₀ hd₀]
    by_cases hpins : d₀.pins = []
    · -- nothing is taken out of a document without pins, wherever it stands
      have hreduced : d₀.reduced = d₀ := Document.reduced_of_pins_eq_nil hpins
      have hd' : d = d₀ := by
        split at hd
        · exact (Option.some.inj hd).symm.trans hreduced
        · exact (Option.some.inj hd).symm
      rw [Option.map_some, Document.reduced_relabel, hreduced, hd', ite_self]
    · rw [if_congr (before_relabelled_iff hk ⟨d₀, hd₀, hpins⟩ (pinnedAt_of_mem_pinned hp)) rfl rfl]
      split at hd
      · rw [if_pos ‹_›, Option.map_some, Document.reduced_relabel, ← Option.some.inj hd]
      · rw [if_neg ‹_›, ← Option.some.inj hd]

/-- The same documents are copied for a document. -/
theorem targets_relabelled (hinj : tags.InjOn f) (hkeys : ∀ t, m.contains t = true → t ∈ tags)
    (hd : ∀ e ∈ d.edges, e.tag ∈ tags) (h : m.Relabelled f m') :
    DocumentMap.Relabelled f (m.targets d) (m'.targets (d.relabel f)) := by
  have hcontains : ∀ {t}, (m.targets d).contains t = true → m.contains t = true := fun ht =>
    (contains_targets.1 ht).2
  rw [relabelled_iff]
  refine ⟨fun t u ht hu => h.injective (hcontains ht) (hcontains hu), fun u d' => ?_⟩
  simp only [get?_targets, h.get?_iff, Document.edges_relabel, List.mem_map,
    exists_exists_and_eq_and]
  constructor
  · rintro ⟨⟨e, he, hu⟩, t, d₁, hd₁, rfl, rfl⟩
    have ht : e.tag = t := hinj (hd e he) (hkeys t (Table.contains_of_get? hd₁)) hu
    exact ⟨t, d₁, ⟨⟨e, he, ht⟩, hd₁⟩, rfl, rfl⟩
  · rintro ⟨t, d₁, ⟨⟨e, he, rfl⟩, hd₁⟩, rfl, rfl⟩
    exact ⟨⟨e, he, rfl⟩, e.tag, d₁, hd₁, rfl, rfl⟩

/-- The map of one pin fails to be cut out with the same error, or is the same under the new
tags. -/
theorem cut_relabelled (hk : KeepsPins f tags m) (h : m.Relabelled f m') (hp : p ∈ m.pinned) :
    AgreeUpTo (Relabelled f) (m.cut p) (m'.cut (p.relabel f)) := by
  have hbefore := reducedBefore_relabelled hk h hp
  have hkeys : ∀ t, (m.reducedBefore p.tag).contains t = true → t ∈ tags := by
    intro t ht
    refine hk.keys t ?_
    rwa [reducedBefore, contains_reduceAll (m.pairwise_before p.tag) fun _ he =>
      get?_of_mem_before he] at ht
  have htargets :=
    targets_relabelled hk.injective hkeys (hk.targets p.tag p.batch (mem_pinned.1 hp).1) hbefore
  have hinsert : ∀ pin, DocumentMap.Relabelled f
      (((m.reducedBefore p.tag).targets p.batch).insert (pinTag p.tag p.entry)
        (p.batch.isolated p.entry pin))
      (((m'.reducedBefore (f p.tag)).targets (p.batch.relabel f)).insert (pinTag (f p.tag) p.entry)
        ((p.batch.relabel f).isolated p.entry pin)) := by
    intro pin
    rw [← hk.pinTag_eq p hp, Document.isolated_relabel]
    exact htargets.insert fun t ht =>
      hk.injective (hkeys t (contains_targets.1 ht).2) (hk.pinTag_mem p hp)
  show AgreeUpTo _ (isolate _ _ _ _) (isolate _ (f p.tag) (p.batch.relabel f) p.entry)
  unfold isolate
  cases Pin.ofEntry p.entry with
  | error e => exact .error e
  | ok pin => exact .ok (hinsert pin)

/-! ## Whole expansions -/

/-- An expansion gives the same maps in the same order under the new tags, or the same error. -/
theorem expand_relabelled (hk : KeepsPins f tags m) (h : m.Relabelled f m') :
    AgreeUpTo (List.Forall₂ (Relabelled f)) m.expand m'.expand := by
  have hreduce : m.reduce.Relabelled f m'.reduce := by
    rw [reduce_eq_map, reduce_eq_map]
    exact h.map fun _ => Document.reduced_relabel
  rw [expand_eq, expand_eq, h.isEmpty_eq, pinned_relabelled hk h]
  cases m.isEmpty with
  | true => exact .error _
  | false =>
    have hcuts : AgreeUpTo (List.Forall₂ (Relabelled f)) (m.pinned.mapM m.cut)
        ((m.pinned.map (PinnedEntry.relabel f)).mapM m'.cut) :=
      .mapM fun p hp => cut_relabelled hk h hp
    exact hcuts.map fun isolated isolated' hisolated =>
      List.rel_append hisolated (.cons hreduce .nil)

end DocumentMap

end Provision
