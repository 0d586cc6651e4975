import Provision.Proofs.Expansion
import Provision.Proofs.Pin

/-!
# Why an expansion fails

Documents are expanded one after another in a map that changes on the way, but whether a pin can be
read is settled by its text alone. So an expansion of at least one document fails exactly if a gem
or pip document lists a pin without a package or without a version (`exists_expand_eq_error_iff`),
wherever it stands, and the error names a pin of that kind.
-/

namespace Provision

/-- Two equals signs stand in a text, and there is nothing but white space before the first two of
them or nothing but white space behind them. -/
def BlankPin (entry : String) : Prop :=
  ∃ package version, entry.toList = package ++ pinSeparator ++ version ∧
    ¬ pinSeparator <:+: package ++ ['='] ∧
    (Text.isBlankText package = true ∨ Text.isBlankText version = true)

/-- A gem or pip document whose list of packages has a pin without a package or without a
version. -/
def Document.ListsBlankPin (d : Document) : Prop :=
  (d.resourceType = .gem ∨ d.resourceType = .pip) ∧
    ∃ names, d.attributes.get? "names" = some (.list names) ∧
      ∃ entry, .str entry ∈ names ∧ BlankPin entry

theorem ResourceType.isVersionAware_iff {type : ResourceType} :
    type.isVersionAware = true ↔ type = .gem ∨ type = .pip := by
  cases type <;> simp [isVersionAware]

namespace Pin

variable {entry : String} {e : ConvertError}

/-- A text that is no pin is named by the error. -/
theorem ofEntry_eq_error (h : Pin.ofEntry entry = .error e) :
    e = .expandFailure (.invalidPin entry) := by
  unfold ofEntry at h
  split at h
  · dsimp only at h
    split at h
    · cases h
      rfl
    · cases h
  · cases h
    rfl

/-- Of the texts with two equals signs, those with a blank part cannot be read. -/
theorem ofEntry_ne_ok_iff (h : (Value.str entry).isPinned = true) :
    (∀ pin, Pin.ofEntry entry ≠ .ok pin) ↔ BlankPin entry := by
  obtain ⟨⟨package, version⟩, hsplit⟩ := Option.isSome_iff_exists.1 h
  have hpin := splitPin_eq_some_iff.1 hsplit
  constructor
  · intro hnone
    refine ⟨package, version, hpin.1, hpin.2, ?_⟩
    by_contra hblank
    obtain ⟨hpackage, hversion⟩ := not_or.1 hblank
    exact hnone _ (ofEntry_eq_ok_iff.2 ⟨package, version, hsplit, Bool.eq_false_iff.2 hpackage,
      Bool.eq_false_iff.2 hversion, rfl⟩)
  · intro hblank pin hok
    obtain ⟨package', version', hentry, hclear, hblank⟩ := hblank
    obtain ⟨package'', version'', hsplit', hpackage, hversion, -⟩ := ofEntry_eq_ok_iff.1 hok
    rw [splitPin_eq_some_iff.2 ⟨hentry, hclear⟩] at hsplit'
    cases hsplit'
    rcases hblank with hblank | hblank
    · rw [hpackage] at hblank
      cases hblank
    · rw [hversion] at hblank
      cases hblank

end Pin

namespace Document

variable {d : Document} {entry : String}

/-- A batch is a gem or pip document with a list of packages. -/
theorem batch?_eq_some_iff {names : List Value} : d.batch? = some names ↔
    (d.resourceType = .gem ∨ d.resourceType = .pip) ∧
    d.attributes.get? "names" = some (.list names) := by
  unfold batch? namesKey
  rw [← ResourceType.isVersionAware_iff]
  by_cases haware : d.resourceType.isVersionAware = true
  · simp [haware, Option.bind_eq_some_iff, Value.items?_eq_some_iff]
  · simp [haware]

theorem mem_pins_iff : entry ∈ d.pins ↔
    ∃ names, d.batch? = some names ∧ .str entry ∈ names ∧ (Value.str entry).isPinned = true := by
  unfold pins
  simp only [List.mem_filterMap, List.mem_filter, Value.text?_eq_some_iff, exists_eq_right]
  cases d.batch? <;> simp

/-- An entry without a package or without a version is what makes a document unreadable. -/
theorem listsBlankPin_iff : d.ListsBlankPin ↔ ¬ d.Readable := by
  unfold ListsBlankPin Readable
  simp only [not_forall, not_exists, mem_pins_iff, batch?_eq_some_iff]
  constructor
  · intro h
    obtain ⟨htype, names, hnames, entry, hentry, hblank⟩ := h
    have hpinned : (Value.str entry).isPinned = true := by
      obtain ⟨package, version, hsplit, hclear, -⟩ := hblank
      rw [Value.isPinned, splitPin_eq_some_iff.2 ⟨hsplit, hclear⟩]
      rfl
    exact ⟨entry, ⟨names, ⟨htype, hnames⟩, hentry, hpinned⟩,
      (Pin.ofEntry_ne_ok_iff hpinned).2 hblank⟩
  · intro h
    obtain ⟨entry, ⟨names, ⟨htype, hnames⟩, hentry, hpinned⟩, hnone⟩ := h
    exact ⟨htype, names, hnames, entry, hentry, (Pin.ofEntry_ne_ok_iff hpinned).1 hnone⟩

end Document

namespace DocumentMap

variable {m : DocumentMap} {e : ConvertError}

/-- An expansion fails only where there is no document or where a pin cannot be read. -/
theorem expand_eq_error (h : m.expand = .error e) :
    (m.isEmpty = true ∧ e = .expandFailure .noDocuments) ∨
      (m.isEmpty = false ∧ ∃ p ∈ m.pinned, (∀ pin, Pin.ofEntry p.entry ≠ .ok pin) ∧
        e = .expandFailure (.invalidPin p.entry)) := by
  rw [expand_eq] at h
  cases hempty : m.isEmpty with
  | true =>
    rw [hempty, if_pos rfl] at h
    cases h
    exact .inl ⟨rfl, rfl⟩
  | false =>
    rw [hempty, if_neg Bool.false_ne_true] at h
    cases hcut : m.pinned.mapM m.cut with
    | ok maps =>
      rw [hcut] at h
      cases h
    | error e' =>
      rw [hcut] at h
      cases h
      obtain ⟨p, hp, he⟩ := exists_of_mapM_eq_error hcut
      cases hpin : Pin.ofEntry p.entry with
      | ok pin =>
        unfold cut isolate at he
        rw [hpin] at he
        cases he
      | error e'' =>
        have hnone : ∀ pin, Pin.ofEntry p.entry ≠ .ok pin := by
          intro pin hok
          rw [hpin] at hok
          cases hok
        unfold cut isolate at he
        rw [hpin, error_bind] at he
        cases he
        exact .inr ⟨rfl, p, hp, hnone, Pin.ofEntry_eq_error hpin⟩

/-- Documents cannot be expanded exactly if one of them lists a pin with a blank part. -/
theorem exists_expand_eq_error_iff (hne : m.isEmpty = false) :
    (∃ e, m.expand = .error e) ↔ ∃ t d, m.get? t = some d ∧ d.ListsBlankPin := by
  simp only [Document.listsBlankPin_iff]
  constructor
  · intro h
    obtain ⟨e, he⟩ := h
    rcases expand_eq_error he with ⟨hempty, -⟩ | ⟨-, p, hp, hnone, -⟩
    · rw [hne] at hempty
      cases hempty
    · obtain ⟨hget, hentry⟩ := mem_pinned.1 hp
      refine ⟨p.tag, p.batch, hget, fun hreadable => ?_⟩
      obtain ⟨pin, hpin⟩ := hreadable p.entry hentry
      exact hnone pin hpin
  · intro h
    obtain ⟨t, d, hd, hunreadable⟩ := h
    cases hexpand : m.expand with
    | error e => exact ⟨e, rfl⟩
    | ok maps =>
      obtain ⟨isolated, -, hreadable, -⟩ := expand_eq_ok hexpand
      exact absurd (hreadable t d hd) hunreadable

end DocumentMap

end Provision
