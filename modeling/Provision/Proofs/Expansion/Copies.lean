import Provision.Proofs.Expansion
import Provision.Tag

/-!
# Copies in the maps of version pins

The map of a pin holds copies of the documents that the pin's batch refers to, taken when the
batch's turn has come. By then the documents that stand before the batch have lost their own pins;
the batch itself and those behind it have not. So a copy is the document of the last map if the
copied document has no pins or stands before the batch (`Settled`), and otherwise it is a batch that
still lists what has a map of its own. `copies_agree_iff` says that there is nothing else to it, and
the file ends with two maps that differ in the order of their tags only: in the one a copy has kept
its pin, in the other it has not.
-/

namespace Provision

namespace Document

variable {d : Document} {entry : String} {pin : Pin}

theorem isVersionAware_of_pins_ne_nil (h : d.pins ≠ []) : d.resourceType.isVersionAware = true := by
  by_cases hv : d.resourceType.isVersionAware = true
  · exact hv
  · exact absurd (by simp [pins, batch?, hv]) h

@[simp] theorem pins_reduced : d.reduced.pins = [] := by
  by_cases h : d.pins = []
  · rw [reduced_of_pins_eq_nil h, h]
  · have hv := isVersionAware_of_pins_ne_nil h
    have hreduced : d.reduced = d.unpinned (d.batch?.getD []) := by
      unfold reduced
      rw [if_neg (by simpa using h)]
    rw [hreduced]
    simp [pins, batch?, unpinned, hv, Value.items?]

theorem reduced_eq_self_iff : d.reduced = d ↔ d.pins = [] := by
  constructor
  · intro h
    rw [← h]
    exact pins_reduced
  · exact reduced_of_pins_eq_nil

/-- The document of a pinned package lists nothing. -/
theorem pins_isolated : (d.isolated entry pin).pins = [] := by
  have hnames : (d.isolated entry pin).attributes.get? namesKey
      = (d.attributes.filter fun _ v => !v.isList).get? namesKey := by
    unfold isolated
    dsimp only
    split
    · rw [Table.get?_insert_of_ne (by decide), Table.get?_insert_of_ne (by decide)]
    · exact Table.get?_insert_of_ne (by decide)
  have hbatch : ((d.isolated entry pin).attributes.get? namesKey).bind Value.items? = none := by
    rw [hnames, Table.get?_filter]
    cases d.attributes.get? namesKey with
    | none => rfl
    | some v => cases v <;> rfl
  simp [pins, batch?, hbatch]

end Document

namespace DocumentMap

variable {m im : DocumentMap} {maps : List DocumentMap} {p : PinnedEntry} {t : String}

/-- No gem or pip document of the map lists a package with a version. -/
def Unpinned (m : DocumentMap) : Prop := ∀ e ∈ m.entries, e.2.pins = []

instance : Decidable m.Unpinned := inferInstanceAs (Decidable (∀ e ∈ m.entries, e.2.pins = []))

/-- A tag has a document that lists a package with a version. -/
def PinnedAt (m : DocumentMap) (t : String) : Prop := ∃ d, m.get? t = some d ∧ d.pins ≠ []

instance : Decidable (m.PinnedAt t) :=
  decidable_of_iff ((m.get? t).any fun d => d.pins ≠ []) <| by
    unfold PinnedAt
    cases m.get? t <;> simp

/-- What the entry's batch refers to, and is copied for it, has no pins or loses them before. -/
def Settled (m : DocumentMap) (p : PinnedEntry) : Prop :=
  ∀ e ∈ p.batch.edges, e.tag ≠ pinTag p.tag p.entry → m.PinnedAt e.tag → Text.Before e.tag p.tag

instance : Decidable (m.Settled p) :=
  inferInstanceAs (Decidable (∀ e ∈ p.batch.edges, e.tag ≠ pinTag p.tag p.entry → m.PinnedAt e.tag →
    Text.Before e.tag p.tag))

/-- Every document of a pin's map, apart from the one of the pinned package, stands in another
map. -/
def CopiesAgree (main : DocumentMap) (p : PinnedEntry) (im : DocumentMap) : Prop :=
  ∀ t d, t ≠ pinTag p.tag p.entry → im.get? t = some d → main.get? t = some d

theorem unpinned_iff : m.Unpinned ↔ ∀ t d, m.get? t = some d → d.pins = [] := by
  constructor
  · intro h t d hd
    exact h (t, d) (Table.get?_eq_some_iff.1 hd)
  · intro h e he
    exact h e.1 e.2 (Table.get?_eq_some_iff.2 he)

theorem reduce_unpinned : m.reduce.Unpinned := by
  rw [unpinned_iff]
  intro t d hd
  rw [get?_reduce] at hd
  obtain ⟨d', -, rfl⟩ := Option.map_eq_some_iff.1 hd
  exact Document.pins_reduced

/-! ## One pin -/

/-- The document of the pinned package in its map. -/
theorem get?_cut_self (h : m.cut p = .ok im) :
    ∃ pin, Pin.ofEntry p.entry = .ok pin ∧
      im.get? (pinTag p.tag p.entry) = some (p.batch.isolated p.entry pin) := by
  obtain ⟨pin, hpin, rfl⟩ := isolate_eq_ok_iff.1 h
  exact ⟨pin, hpin, Table.get?_insert_self⟩

/-- The other documents are those that the batch refers to, without their pins if they stand before
it. -/
theorem get?_cut_of_ne (h : m.cut p = .ok im) (ht : t ≠ pinTag p.tag p.entry) {d : Document} :
    im.get? t = some d ↔ (∃ e ∈ p.batch.edges, e.tag = t) ∧
      ∃ original, m.get? t = some original ∧
        d = if Text.Before t p.tag then original.reduced else original := by
  obtain ⟨pin, -, rfl⟩ := isolate_eq_ok_iff.1 h
  rw [Table.get?_insert_of_ne ht, get?_targets, get?_reducedBefore]
  split
  · rw [Option.map_eq_some_iff]
    simp only [eq_comm (b := d)]
  · simp only [exists_eq_right']

/-- The copies in the map of a pin are those of the last map exactly if none of them loses its pins
later. -/
theorem copiesAgree_reduce_iff (h : m.cut p = .ok im) :
    m.reduce.CopiesAgree p im ↔ m.Settled p := by
  constructor
  · intro hagree e he hne hpinned
    obtain ⟨original, horiginal, hpins⟩ := hpinned
    refine Classical.byContradiction fun hbefore => hpins ?_
    -- the copy has kept its pins, the document of the last map has lost them
    have hcopy : im.get? e.tag = some original :=
      (get?_cut_of_ne h hne).2 ⟨⟨e, he, rfl⟩, original, horiginal, (if_neg hbefore).symm⟩
    have hmain := hagree e.tag original hne hcopy
    rw [get?_reduce, horiginal] at hmain
    exact Document.reduced_eq_self_iff.1 (Option.some.inj hmain)
  · intro hsettled t d hne hd
    obtain ⟨⟨e, he, rfl⟩, original, horiginal, rfl⟩ := (get?_cut_of_ne h hne).1 hd
    rw [get?_reduce, horiginal, Option.map_some]
    split
    · rfl
    · next hbefore =>
      have hpins : original.pins = [] := Classical.byContradiction fun hpins =>
        hbefore (hsettled e he hne ⟨original, horiginal, hpins⟩)
      rw [Document.reduced_of_pins_eq_nil hpins]

/-- And exactly then there are no pins in them. -/
theorem unpinned_cut_iff (h : m.cut p = .ok im) : im.Unpinned ↔ m.Settled p := by
  rw [unpinned_iff, ← copiesAgree_reduce_iff h]
  constructor
  · intro hpins t d hne hd
    obtain ⟨-, original, horiginal, hcopy⟩ := (get?_cut_of_ne h hne).1 hd
    have hreduced : d.reduced = d := Document.reduced_of_pins_eq_nil (hpins t d hd)
    rw [get?_reduce, horiginal, Option.map_some, ← hreduced, hcopy]
    split
    · rw [Document.reduced_of_pins_eq_nil Document.pins_reduced]
    · rfl
  · intro hagree t d hd
    by_cases ht : t = pinTag p.tag p.entry
    · obtain ⟨pin, -, hself⟩ := get?_cut_self h
      rw [ht, hself] at hd
      cases hd
      exact Document.pins_isolated
    · exact unpinned_iff.1 reduce_unpinned t d (hagree t d ht hd)

/-! ## All pins -/

/-- A document of an expanded map is that of a pinned package, or one of the documents that were
there, with its pins or without them. -/
theorem exists_of_mem_expand {a : DocumentMap} {d : Document} (h : m.expand = .ok maps)
    (ha : a ∈ maps) (hd : a.get? t = some d) :
    (∃ p ∈ m.pinned, ∃ pin, t = pinTag p.tag p.entry ∧ d = p.batch.isolated p.entry pin) ∨
      ∃ original, m.get? t = some original ∧ (d = original ∨ d = original.reduced) := by
  obtain ⟨isolated, rfl, -, hcuts⟩ := expand_eq_ok h
  rcases List.mem_append.1 ha with ha | ha
  · obtain ⟨p, hp, hcut⟩ := (hcuts a).1 ha
    by_cases ht : t = pinTag p.tag p.entry
    · obtain ⟨pin, -, hself⟩ := get?_cut_self hcut
      rw [ht, hself] at hd
      cases hd
      exact .inl ⟨p, hp, pin, ht, rfl⟩
    · obtain ⟨-, original, horiginal, rfl⟩ := (get?_cut_of_ne hcut ht).1 hd
      refine .inr ⟨original, horiginal, ?_⟩
      split
      · exact .inr rfl
      · exact .inl rfl
  · rw [List.mem_singleton.1 ha, get?_reduce] at hd
    obtain ⟨original, horiginal, rfl⟩ := Option.map_eq_some_iff.1 hd
    exact .inr ⟨original, horiginal, .inr rfl⟩

/-- The copies in the maps of all pins are the documents of the last map, and no map lists a package
with a version any more, exactly if whatever is copied has no pins or stands before the batch that
it is copied for. The last map itself never does. -/
theorem copies_agree_iff (h : m.expand = .ok maps) :
    ∃ isolated main, maps = isolated ++ [main] ∧ main.Unpinned ∧
      (List.Forall₂ main.CopiesAgree m.pinned isolated ↔ ∀ p ∈ m.pinned, m.Settled p) ∧
      ((∀ map ∈ maps, map.Unpinned) ↔ ∀ p ∈ m.pinned, m.Settled p) := by
  obtain ⟨-, isolated, hcut, rfl⟩ := expand_eq_ok_iff.1 h
  have hcuts := mapM_eq_ok_iff_forall₂.1 hcut
  refine ⟨isolated, m.reduce, rfl, reduce_unpinned,
    forall₂_iff_forall_mem hcuts fun p im => copiesAgree_reduce_iff, ?_⟩
  rw [List.forall_mem_append, List.forall_mem_singleton, and_iff_left reduce_unpinned]
  exact forall_mem_iff_of_forall₂ hcuts fun p im => unpinned_cut_iff

/-- A batch of a step, which requires a prerequisite's batch; both pin a package. -/
def pinnedPrerequisite (step : String) : DocumentMap := .ofList [
  (stepTag "extra" step "in",
    { resourceType := .pip, state := "in", attributes := .singleton "names" (.strings ["y==2"]),
      requires := [⟨.pip, stepTag "base" "require" "in"⟩] }),
  (stepTag "base" "require" "in",
    { resourceType := .pip, state := "in", attributes := .singleton "names" (.strings ["x==1"]) })]

/-- The copy of the prerequisite's batch keeps its pin if the step's name comes before the word that
the tags of prerequisites begin with, and not if it comes after. -/
theorem pinnedPrerequisite_order_counts : ∃ maps maps',
    (pinnedPrerequisite "1").expand = .ok maps ∧ (pinnedPrerequisite "z").expand = .ok maps' ∧
      (¬ ∀ map ∈ maps, map.Unpinned) ∧ ∀ map ∈ maps', map.Unpinned := by
  obtain ⟨maps, h⟩ := exists_eq_ok_of_isOk
    (show (pinnedPrerequisite "1").expand.isOk = true by decide +kernel)
  obtain ⟨maps', h'⟩ := exists_eq_ok_of_isOk
    (show (pinnedPrerequisite "z").expand.isOk = true by decide +kernel)
  obtain ⟨-, -, -, -, -, hiff⟩ := copies_agree_iff h
  obtain ⟨-, -, -, -, -, hiff'⟩ := copies_agree_iff h'
  refine ⟨maps, maps', h, h', fun hunpinned => ?_, hiff'.2 (by decide +kernel)⟩
  have hsettled : ¬ ∀ p ∈ (pinnedPrerequisite "1").pinned, (pinnedPrerequisite "1").Settled p := by
    decide +kernel
  exact hsettled (hiff.1 hunpinned)

end DocumentMap

end Provision
