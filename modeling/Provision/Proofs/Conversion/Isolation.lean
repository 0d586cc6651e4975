import Provision.Proofs.Conversion.Edges

/-!
# Edges of the maps of version pins

The map of a pinned package holds a document for the package, with the edges of the batch that lists
it, and copies of the documents that the batch refers to. What these refer to is not copied for
their sake. It is there because own documents refer to everything that their prerequisites made, at
any depth, so a copied document normally refers to nothing that the batch does not refer to as well.
That is always so for the step's own batches (`refers_of_own`). A prerequisite's batch keeps its
edges when the map it was made in is merged with others, while the documents that it refers to may
be replaced by documents with other edges. `closed_isolated_iff` says exactly when the map of a pin
is closed all the same, and `Compiled.refers_trans` that it is if nothing that is needed gets
replaced; the file ends with a conversion where something is, and a pin's map is not closed.
-/

namespace Provision

namespace DocumentMap

variable {m m' im : DocumentMap} {maps : List DocumentMap} {tag entry t u : String} {d : Document}
  {pin : Pin} {before after : List (String × Document)}

/-- What is copied for a pinned entry of the batch at a tag refers only to what is in the pin's map:
to the package's document, or to something that the batch refers to as well. -/
def SelfContained (m : DocumentMap) (tag entry : String) : Prop :=
  ∀ t u, m.Refers Document.edges tag t → t ≠ pinTag tag entry → m.Refers Document.edges t u →
    u = pinTag tag entry ∨ m.Refers Document.edges tag u

/-- The map of one pin is closed exactly if the batch has all edges that lead on from its edges. -/
theorem closed_isolated_iff (hm : m.Closed) (hd : m.get? tag = some d)
    (hrefers : ∀ t u, m'.Refers Document.edges t u ↔ m.Refers Document.edges t u)
    (hcontains : ∀ t, m'.contains t = m.contains t) :
    Closed ((m'.targets d).insert (pinTag tag entry) (d.isolated entry pin)) ↔
      m.SelfContained tag entry := by
  have htag : ∀ t, (∃ e ∈ d.edges, e.tag = t) ↔ m.Refers Document.edges tag t := by
    intro t
    unfold Refers
    simp [hd]
  rw [closed_iff_refers]
  simp only [refers_insert, refers_targets, Table.contains_insert, contains_targets, htag, hrefers,
    hcontains]
  constructor
  · intro h t u htarget hne hu
    rcases h t u (.inr ⟨hne, htarget, hu⟩) with heq | ⟨hrefers, -⟩
    · exact .inl heq
    · exact .inr hrefers
  · intro h t u hedge
    rcases hedge with ⟨-, e, he, rfl⟩ | ⟨hne, htarget, hu⟩
    · have hedge := (htag e.tag).1 ⟨e, Document.mem_edges_of_isolated he, rfl⟩
      exact .inr ⟨hedge, hm.contains_of_refers hedge⟩
    · exact (h t u htarget hne hu).imp_right fun hedge => ⟨hedge, hm.contains_of_refers hu⟩

/-- The maps of all pins of an expansion are closed exactly if this holds for every pinned entry of
every batch. -/
theorem expand_isolated_closed_iff (hm : m.Closed) (h : m.expand = .ok maps) :
    (∀ im ∈ maps.dropLast, im.Closed) ↔
      ∀ tag d, m.get? tag = some d → ∀ entry ∈ d.pins, m.SelfContained tag entry := by
  obtain ⟨isolated, rfl, hreadable, hisolated⟩ := expand_eq_ok h
  rw [List.dropLast_concat]
  -- the map that a pin is cut out of has the tags and the edges of the whole one
  have hcut : ∀ tag d, m.get? tag = some d → ∀ entry pin,
      (Closed (((m.reducedBefore tag).targets d).insert (pinTag tag entry) (d.isolated entry pin)) ↔
        m.SelfContained tag entry) := by
    intro tag d hd entry pin
    exact closed_isolated_iff hm hd
      (fun t u => refers_reduceAll (fun _ => Document.edges_reduced) (m.pairwise_before tag)
        fun _ he => get?_of_mem_before he)
      (fun t => contains_reduceAll (m.pairwise_before tag) fun _ he => get?_of_mem_before he)
  constructor
  · intro hclosed tag d hd entry hentry
    obtain ⟨pin, hpin⟩ := hreadable tag d hd entry hentry
    refine (hcut tag d hd entry pin).1 (hclosed _ ((hisolated _).2 ?_))
    exact ⟨⟨tag, d, entry⟩, mem_pinned.2 ⟨hd, hentry⟩, isolate_eq_ok_iff.2 ⟨pin, hpin, rfl⟩⟩
  · intro hall im him
    obtain ⟨p, hp, hisolate⟩ := (hisolated im).1 him
    obtain ⟨hd, hentry⟩ := mem_pinned.1 hp
    obtain ⟨pin, -, rfl⟩ := isolate_eq_ok_iff.1 hisolate
    exact (hcut p.tag p.batch hd p.entry pin).2 (hall p.tag p.batch hd p.entry hentry)

end DocumentMap

namespace Converter

variable {c : Converter} {pm : PackageManager} {levels : Nat} {step module platform : String}
  {tag t u : String} {s : Schema} {params : Parameters} {m requires triggers : DocumentMap}
  {maps : List DocumentMap} {buckets : Buckets}

/-- Own documents have edges to all prerequisites and triggers; those of prerequisites keep
theirs. -/
theorem edges_assemble (htriggers : ∀ t d, triggers.get? t = some d → d.edges = []) :
    (assemble s step requires triggers buckets).Refers Document.edges t u ↔
      (t ∈ ownTags s step buckets ∧ (requires.contains u = true ∨ triggers.contains u = true)) ∨
      (t ∉ ownTags s step buckets ∧ ¬ triggers.contains t = true ∧
        requires.Refers Document.edges t u) := by
  have hown : ∀ state attributes, (ownDocument s requires triggers state attributes).edges
      = requires.edges ++ triggers.edges := fun _ _ => List.append_nil _
  rw [refers_assemble hown htriggers, DocumentMap.contains_iff_mem_edges (t := u),
    DocumentMap.contains_iff_mem_edges (t := u)]
  simp only [List.mem_append, or_and_right, exists_or]

/-- A step's own document refers to everything that any document beside it refers to. -/
theorem refers_of_own (hrequires : requires.Closed)
    (htriggers : ∀ t d, triggers.get? t = some d → d.edges = [])
    (hown : tag ∈ ownTags s step buckets)
    (hu : (assemble s step requires triggers buckets).Refers Document.edges t u) :
    (assemble s step requires triggers buckets).Refers Document.edges tag u := by
  rw [edges_assemble htriggers] at hu ⊢
  rcases hu with ⟨-, hu⟩ | ⟨-, -, hu⟩
  · exact .inl ⟨hown, hu⟩
  · exact .inl ⟨hown, .inl (hrequires.contains_of_refers hu)⟩

/-- A module needs its applicable prerequisites and what they need. -/
inductive Needs (c : Converter) (pm : PackageManager) : Schema → Prerequisite × Schema → Prop
  | direct {s : Schema} {q : Prerequisite × Schema} (h : q ∈ c.applicable pm s) : Needs c pm s q
  | nested {s : Schema} {q q' : Prerequisite × Schema} (h : q ∈ c.applicable pm s)
      (h' : Needs c pm q.2 q') : Needs c pm s q'

/-- As long as a map keeps the documents of everything that is needed, at any depth, a document of
it refers to everything that the documents it refers to refer to. -/
theorem Compiled.refers_trans {whole : DocumentMap} (h : c.Compiled pm levels step s params m)
    (hm : m.Within whole)
    (hneeds : ∀ q, c.Needs pm s q → ∀ levels docs,
      c.Compiled pm levels requireStep q.2 q.1.parameters docs → docs.Within whole)
    (ht : m.Refers Document.edges tag t) (hu : m.Refers Document.edges t u) :
    m.Refers Document.edges tag u := by
  induction h with
  | intro docs renamed built nested ih =>
    have hclosed := required_closed fun q hq => (nested q hq).closed
    rcases (edges_assemble fun _ _ => Schema.triggerDocuments_edges).1 ht with
      ⟨hown, -⟩ | ⟨hown, htrigger, d, hd, e, he, rfl⟩
    · exact refers_of_own hclosed (fun _ _ => Schema.triggerDocuments_edges) hown hu
    · -- the batch is a prerequisite's, and what it refers to is still as it was there
      obtain ⟨n, hn, hnd⟩ := DocumentMap.mem_of_get?_merge hd
      obtain ⟨q, hq, rfl⟩ := List.mem_map.1 hn
      have hwithin := hneeds q (.direct hq) _ _ (nested q hq)
      have htarget : (docs q).Refers Document.edges tag e.tag := ⟨d, hnd, e, he, rfl⟩
      obtain ⟨d₁, hd₁⟩ := Table.contains_iff.1 ((nested q hq).closed.contains_of_refers htarget)
      obtain ⟨d₂, hd₂, e₂, he₂, rfl⟩ := hu
      have hsame : d₁ = d₂ := Option.some.inj ((hwithin.get? hd₁).symm.trans (hm.get? hd₂))
      rw [← hsame] at he₂
      obtain ⟨d', hd', hedge⟩ := ih q hq hwithin (fun q' hq' => hneeds q' (.nested hq hq')) htarget
        ⟨d₁, hd₁, e₂, he₂, rfl⟩
      rw [hnd] at hd'
      cases hd'
      exact (edges_assemble fun _ _ => Schema.triggerDocuments_edges).2
        (.inr ⟨hown, htrigger, d, hd, hedge⟩)

/-- The maps of pins are closed exactly if this holds for every pinned entry of every compiled
document: what a document refers to that the batch refers to, the batch refers to as well, or it is
the package's document. -/
theorem isolated_closed_iff (h : c.convert step module params platform = .ok maps) :
    ∃ m, c.documents step module params platform = .ok m ∧ maps.getLast? = some m.reduce ∧
      ((∀ im ∈ maps.dropLast, im.Closed) ↔
        ∀ tag d, m.get? tag = some d → ∀ entry ∈ d.pins, m.SelfContained tag entry) := by
  obtain ⟨m, hm, hexpand⟩ := convert_eq_ok_iff.1 h
  exact ⟨m, hm, DocumentMap.getLast?_expand hexpand,
    DocumentMap.expand_isolated_closed_iff (documents_closed hm) hexpand⟩

/-- A conversion that keeps the documents of everything that is needed, at any depth, gives closed
maps only. -/
theorem isolated_closed_of_needs_within {p : Platform}
    (h : c.convert step module params platform = .ok maps)
    (hcheck : c.check step module platform = .ok (s, p))
    (hm : c.documents step module params platform = .ok m)
    (hneeds : ∀ q, c.Needs p.packageManager s q → ∀ levels docs,
      c.Compiled p.packageManager levels requireStep q.2 q.1.parameters docs → docs.Within m) :
    ∀ im ∈ maps.dropLast, im.Closed := by
  obtain ⟨m', hm', hexpand⟩ := convert_eq_ok_iff.1 h
  obtain ⟨s', p', hcheck', hcompiled⟩ := documents_eq_ok_iff.1 hm
  rw [hm] at hm'
  cases hm'
  rw [hcheck] at hcheck'
  cases hcheck'
  refine (DocumentMap.expand_isolated_closed_iff (documents_closed hm) hexpand).2 ?_
  intro tag d _ entry _ t u ht _ hu
  exact .inr (hcompiled.refers_trans (DocumentMap.Within.refl m) hneeds ht hu)

/-- A library with a pinned version and a tool, which both need a helper, and an application that
needs both. Only for the tool the helper gets a note, which it passes on to a cache. -/
def toolbox : Converter where
  registry := .ofList [
    { id := "cache", resourceType := .cmd, attributes := .singleton "name" "name",
      states := ["run"] },
    { id := "helper", resourceType := .file, attributes := .singleton "name" "name",
      states := ["there"], triggers := [⟨"cache", [⟨"note", "name"⟩]⟩] },
    { id := "library", resourceType := .pip, attributes := .singleton "name" "names",
      states := ["in"], requires := [⟨"helper", .singleton "name" (.str "h")⟩] },
    { id := "tool", resourceType := .file, attributes := .singleton "name" "name",
      states := ["there"],
      requires := [⟨"helper", .ofList [("name", .str "h"), ("note", .str "n")]⟩] },
    { id := "app", resourceType := .file, attributes := .singleton "name" "name",
      states := ["there"],
      requires := [⟨"library", .singleton "name" (.strings ["x==1"])⟩,
        ⟨"tool", .singleton "name" (.str "t")⟩] }]
  handlers := .standard

/-- The pinned library's map has the helper of the tool, but not the cache that this one is required
in. -/
theorem toolbox_isolated_not_closed : ofRegistry toolbox.registry = .ok toolbox ∧
    ∃ maps, toolbox.convert "1" "app" (.singleton "name" (.str "a")) "ubuntu" = .ok maps ∧
      ∃ im ∈ maps.dropLast, ¬ im.Closed := by
  have hregistry : ofRegistry toolbox.registry = .ok toolbox :=
    Registry.ofRegistry_eq_ok_of_rank
      (fun m => if m = "app" then 2 else if m = "library" ∨ m = "tool" then 1 else 0)
      (by decide +kernel) (by decide +kernel)
  let library := "_require_library_in"
  let helper := "_require_helper_there"
  let cache := "_require_cache_require_in_run"
  have hedges : (toolbox.documents "1" "app" (.singleton "name" (.str "a")) "ubuntu").toOption.any
      (fun m => (m.get? library).any (fun d => "x==1" ∈ d.pins) ∧
        m.Refers Document.edges library helper ∧ m.Refers Document.edges helper cache ∧
        ¬ m.Refers Document.edges library cache) = true := by
    decide +kernel
  obtain ⟨maps, h⟩ := exists_eq_ok_of_isOk
    (show (toolbox.convert "1" "app" (.singleton "name" (.str "a")) "ubuntu").isOk = true by
      decide +kernel)
  obtain ⟨m, hm, -, hiff⟩ := isolated_closed_iff h
  simp only [hm, Except.toOption, Option.any_some, decide_eq_true_eq] at hedges
  obtain ⟨hpinned, hhelper, hcache, hmissing⟩ := hedges
  obtain ⟨d, hd, hpin⟩ := Option.any_eq_true .. |>.1 hpinned
  refine ⟨hregistry, maps, h, Classical.byContradiction fun hnone => ?_⟩
  have hclosed : ∀ im ∈ maps.dropLast, im.Closed := fun im him =>
    Classical.byContradiction fun hopen => hnone ⟨im, him, hopen⟩
  rcases hiff.1 hclosed library d hd "x==1" (by simpa using hpin) helper cache hhelper (by decide)
    hcache with heq | hedge
  · exact absurd heq (by decide)
  · exact hmissing hedge

end Converter

end Provision
