import Provision.Proofs.Expansion.Copies
import Provision.Proofs.Expansion.Faults

/-!
# What an expansion gives

`expand` goes through the batches of a map and rewrites the map on the way. What comes out of it can
be said without the pass: `Document.withoutPins` is what stays of a document,
`DocumentMap.listedPins` lists the pins in the order of their maps, and `PinMap` says look-up by
look-up what the map of one pin holds. At most one list of maps is `Expanded` in that sense
(`Expanded.unique`), and `expand_exact` says that it is what an expansion gives.
-/

namespace Provision

/-- The text of a list entry that has two equals signs in it. -/
def Value.pinText? : Value → Option String
  | .str entry => if pinSeparator <:+: entry.toList then some entry else none
  | _ => none

theorem Value.pinText?_eq (v : Value) : v.pinText? = if v.isPinned then v.text? else none := by
  cases v with
  | str entry => simp only [pinText?, text?, isPinned_str_iff]
  | _ => rfl

theorem Value.isNone_pinText? (v : Value) : v.pinText?.isNone = !v.isPinned := by
  cases v with
  | str entry =>
    rw [pinText?_eq]
    cases (Value.str entry).isPinned <;> rfl
  | _ => rfl

namespace Document

variable {d d' batch : Document} {entry : String} {pin : Pin}

/-- The packages that a gem or pip document lists. -/
def listed? (d : Document) : Option (List Value) :=
  match d.resourceType, d.attributes.get? "names" with
  | .gem, some (.list names) => some names
  | .pip, some (.list names) => some names
  | _, _ => none

/-- The listed texts with two equals signs, in the order of the list. -/
def listedPins (d : Document) : List String := (d.listed?.getD []).filterMap Value.pinText?

/-- The document without the texts of its list that have two equals signs. -/
def withoutPins (d : Document) : Document :=
  match d.listed? with
  | some names =>
    { d with attributes := d.attributes.insert "names" (.list (names.filter (·.pinText?.isNone))) }
  | none => d

/-- The document of a pinned entry: the batch's type, state, scope and edges, but nothing to watch;
the package and its version, or for anything but a gem the entry as it stands; and what the batch
has besides, but for lists. -/
structure IsPinOf (d batch : Document) (entry : String) : Prop where
  resourceType : d.resourceType = batch.resourceType
  state : d.state = batch.state
  scope : d.scope = batch.scope
  requires : d.requires = batch.requires
  requiredBy : d.requiredBy = batch.requiredBy
  watches : d.watches = []
  split : batch.resourceType = .gem → ∃ package version,
    entry.toList = package ++ pinSeparator ++ version ∧ ¬ pinSeparator <:+: package ++ ['='] ∧
      d.attributes.get? "name" = some (.str (.ofList (Text.trim package))) ∧
      d.attributes.get? "version" = some (.str (.ofList (Text.trim version)))
  whole : batch.resourceType ≠ .gem → d.attributes.get? "name" = some (.str entry)
  shared : ∀ key, key ≠ "name" → (batch.resourceType = .gem → key ≠ "version") →
    ∀ v, d.attributes.get? key = some v ↔ batch.attributes.get? key = some v ∧ v.isList = false

/-- Only gem and pip documents list packages, under `names`. -/
theorem listed?_eq_some_iff {names : List Value} : d.listed? = some names ↔
    (d.resourceType = .gem ∨ d.resourceType = .pip) ∧
    d.attributes.get? "names" = some (.list names) := by
  unfold listed?
  split
  · next htype hnames => simp [htype, hnames]
  · next htype hnames => simp [htype, hnames]
  · next hgem hpip =>
    refine ⟨fun h => (by cases h), fun h => ?_⟩
    obtain ⟨htype | htype, hnames⟩ := h
    · exact (hgem names htype hnames).elim
    · exact (hpip names htype hnames).elim

theorem listed?_eq_batch? : d.listed? = d.batch? :=
  Option.ext fun _ => listed?_eq_some_iff.trans batch?_eq_some_iff.symm

theorem listedPins_eq_pins : d.listedPins = d.pins := by
  unfold listedPins pins
  rw [listed?_eq_batch?, List.filterMap_filter]
  exact List.filterMap_congr fun v _ => v.pinText?_eq

/-- What stays of a document is what reducing it leaves. -/
theorem withoutPins_eq_reduced : d.withoutPins = d.reduced := by
  rw [reduced_eq]
  unfold withoutPins Attributes.unpinned
  rw [listed?_eq_batch?]
  unfold batch?
  simp only [Value.isNone_pinText?]
  cases d.resourceType.isVersionAware with
  | false => rfl
  | true =>
    simp only [if_true]
    cases (d.attributes.get? namesKey).bind Value.items? <;> rfl

/-- What a document of a batch's entry has to be leaves no choice. -/
theorem IsPinOf.unique (h : d.IsPinOf batch entry) (h' : d'.IsPinOf batch entry) : d = d' := by
  have hname : d.attributes.get? "name" = d'.attributes.get? "name" ∧
      (batch.resourceType = .gem → d.attributes.get? "version" = d'.attributes.get? "version") := by
    by_cases hgem : batch.resourceType = .gem
    · obtain ⟨package, version, hentry, hclear, hname, hversion⟩ := h.split hgem
      obtain ⟨package', version', hentry', hclear', hname', hversion'⟩ := h'.split hgem
      -- the first separator is in one place only
      have hparts := (splitPin_eq_some_iff.2 ⟨hentry, hclear⟩).symm.trans
        (splitPin_eq_some_iff.2 ⟨hentry', hclear'⟩)
      cases hparts
      exact ⟨hname.trans hname'.symm, fun _ => hversion.trans hversion'.symm⟩
    · exact ⟨(h.whole hgem).trans (h'.whole hgem).symm, fun heq => absurd heq hgem⟩
  have hattributes : d.attributes = d'.attributes := by
    apply Table.ext_get?
    intro key
    by_cases hkey : key = "name"
    · rw [hkey, hname.1]
    · by_cases hversion : batch.resourceType = .gem ∧ key = "version"
      · rw [hversion.2, hname.2 hversion.1]
      · have hother : batch.resourceType = .gem → key ≠ "version" :=
          fun hgem heq => hversion ⟨hgem, heq⟩
        ext v
        rw [h.shared key hkey hother, h'.shared key hkey hother]
  obtain ⟨htype, hstate, hscope, hrequires, hrequiredBy, hwatches, -, -, -⟩ := h
  obtain ⟨htype', hstate', hscope', hrequires', hrequiredBy', hwatches', -, -, -⟩ := h'
  cases d
  cases d'
  simp only at *
  subst_vars
  rfl

/-- The document that is cut out for an entry is as it has to be. -/
theorem isPinOf_isolated (h : Pin.ofEntry entry = .ok pin) :
    (batch.isolated entry pin).IsPinOf batch entry := by
  have hsplits : batch.resourceType.splitsVersion = true ↔ batch.resourceType = .gem := by
    cases batch.resourceType <;> simp [ResourceType.splitsVersion]
  obtain ⟨package, version, hsplit, -, -, hpin⟩ := Pin.ofEntry_eq_ok_iff.1 h
  obtain ⟨hentry, hclear⟩ := splitPin_eq_some_iff.1 hsplit
  refine ⟨rfl, rfl, rfl, rfl, rfl, rfl, fun hgem => ?_, fun hgem => ?_,
    fun key hname hversion v => ?_⟩
  · refine ⟨package, version, hentry, hclear, ?_⟩
    unfold isolated
    dsimp only
    rw [if_pos (hsplits.2 hgem), Table.get?_insert_of_ne (by decide), Table.get?_insert_self,
      Table.get?_insert_self, hpin]
    exact ⟨rfl, rfl⟩
  · unfold isolated
    dsimp only
    rw [if_neg (mt hsplits.1 hgem), Table.get?_insert_self]
  · have hshared : (batch.isolated entry pin).attributes.get? key
        = (batch.attributes.filter fun _ v => !v.isList).get? key := by
      unfold isolated
      dsimp only
      split
      · next hgem =>
        rw [Table.get?_insert_of_ne (hversion (hsplits.1 hgem)), Table.get?_insert_of_ne hname]
      · exact Table.get?_insert_of_ne hname
    rw [hshared, Table.get?_filter, Option.filter_eq_some_iff]
    simp

end Document

namespace DocumentMap

variable {m im im' : DocumentMap} {maps maps' : List DocumentMap} {p : PinnedEntry}

/-- The pins that the documents of a map list, by tag and then in the order of the list. -/
def listedPins (m : DocumentMap) : List PinnedEntry :=
  m.entries.flatMap fun (tag, batch) => batch.listedPins.map fun entry => ⟨tag, batch, entry⟩

/-- The map of a pin: the document of the entry and, besides, copies of the documents that its batch
refers to, as they are when the batches with smaller tags have lost their pins. -/
structure PinMap (m : DocumentMap) (p : PinnedEntry) (im : DocumentMap) : Prop where
  entry : ∃ d, im.get? (pinTag p.tag p.entry) = some d ∧ d.IsPinOf p.batch p.entry
  others : ∀ t, t ≠ pinTag p.tag p.entry → ∀ d, im.get? t = some d ↔
    (∃ e ∈ p.batch.edges, e.tag = t) ∧ ∃ original, m.get? t = some original ∧
      d = if Text.Before t p.tag then original.withoutPins else original

/-- The documents of a map without the pins that they list. -/
def withoutPins (m : DocumentMap) : DocumentMap := m.map Document.withoutPins

/-- What an expansion has to give: a map for every pin, in their order, and the documents without
them. -/
def Expanded (m : DocumentMap) (maps : List DocumentMap) : Prop :=
  ∃ isolated, maps = isolated ++ [m.withoutPins] ∧ List.Forall₂ m.PinMap m.listedPins isolated

theorem listedPins_eq_pinned (m : DocumentMap) : m.listedPins = m.pinned := by
  unfold listedPins pinned pinnedIn
  simp only [Document.listedPins_eq_pins]

theorem withoutPins_eq_reduce (m : DocumentMap) : m.withoutPins = m.reduce := by
  rw [reduce_eq_map]
  exact congrArg m.map (funext fun _ => Document.withoutPins_eq_reduced)

/-- Look-ups leave no choice for the map of a pin. -/
theorem PinMap.unique (h : m.PinMap p im) (h' : m.PinMap p im') : im = im' := by
  apply Table.ext_get?
  intro t
  by_cases ht : t = pinTag p.tag p.entry
  · obtain ⟨d, hd, hpin⟩ := h.entry
    obtain ⟨d', hd', hpin'⟩ := h'.entry
    rw [ht, hd, hd', hpin.unique hpin']
  · ext d
    rw [h.others t ht, h'.others t ht]

/-- A map is expanded in one way only. -/
theorem Expanded.unique (h : m.Expanded maps) (h' : m.Expanded maps') : maps = maps' := by
  obtain ⟨isolated, rfl, hpins⟩ := h
  obtain ⟨isolated', rfl, hpins'⟩ := h'
  have hunique : Relator.RightUnique m.PinMap := fun _ _ _ => PinMap.unique
  rw [List.right_unique_forall₂' hunique hpins hpins']

/-- The map that is cut out for a pin is as it has to be. -/
theorem pinMap_of_cut (h : m.cut p = .ok im) : m.PinMap p im := by
  constructor
  · obtain ⟨pin, hpin, hself⟩ := get?_cut_self h
    exact ⟨_, hself, Document.isPinOf_isolated hpin⟩
  · intro t ht d
    rw [get?_cut_of_ne h ht]
    simp only [Document.withoutPins_eq_reduced]

/-- What an expansion gives is expanded. -/
theorem expanded_of_expand (h : m.expand = .ok maps) : m.Expanded maps := by
  obtain ⟨-, isolated, hcut, rfl⟩ := expand_eq_ok_iff.1 h
  refine ⟨isolated, by rw [withoutPins_eq_reduce], ?_⟩
  rw [listedPins_eq_pinned]
  exact (mapM_eq_ok_iff_forall₂.1 hcut).imp fun _ _ => pinMap_of_cut

/-- Documents without pins are all that an expansion gives of them. -/
theorem expand_of_unpinned (hne : m.isEmpty = false) (h : m.Unpinned) : m.expand = .ok [m] := by
  have hpinned : m.pinned = [] := by
    unfold pinned pinnedIn
    exact List.flatMap_eq_nil_iff.2 fun e he => by rw [h e he, List.map_nil]
  have hreduce : m.reduce = m := by
    apply Table.ext_get?
    intro t
    rw [get?_reduce]
    cases hd : m.get? t with
    | none => rfl
    | some d => rw [Option.map_some, Document.reduced_of_pins_eq_nil (unpinned_iff.1 h t d hd)]
  rw [expand_eq_ok_iff, hpinned, hreduce]
  exact ⟨hne, [], rfl, rfl⟩

/-- Documents cannot be expanded exactly if there are none or a pin of a batch has a blank part.
Otherwise an expansion gives the one list of maps that it has to give, and its last map is expanded
already. -/
theorem expand_exact (m : DocumentMap) :
    ((∃ e, m.expand = .error e) ↔ m.isEmpty = true ∨ ∃ t d, m.get? t = some d ∧ d.ListsBlankPin) ∧
      ∀ maps, m.expand = .ok maps →
        (∀ maps', m.Expanded maps' ↔ maps' = maps) ∧
        m.withoutPins.expand = .ok [m.withoutPins] := by
  constructor
  · cases hempty : m.isEmpty with
    | true => simp [expand, hempty]
    | false => simpa using exists_expand_eq_error_iff hempty
  · intro maps h
    have hexpanded := expanded_of_expand h
    refine ⟨fun maps' => ⟨fun h' => h'.unique hexpanded, fun heq => heq ▸ hexpanded⟩, ?_⟩
    rw [withoutPins_eq_reduce]
    refine expand_of_unpinned ?_ reduce_unpinned
    rw [reduce_eq_map, Table.isEmpty_map]
    exact (expand_eq_ok_iff.1 h).1

/-- A batch of gems, and a batch of pip packages that requires it; both pin packages. -/
def pinnedBatches : DocumentMap := .ofList [
  ("tools",
    { resourceType := .gem, state := "there",
      attributes := .ofList [("names", .strings ["rake", " bundler == 2.1 ", "rubocop==1==2"]),
        ("user", .str "deploy")] }),
  ("wheels",
    { resourceType := .pip, state := "there",
      attributes := .singleton "names" (.strings ["six==1.16", "wheel"]),
      requires := [⟨.gem, "tools"⟩] })]

/-- Pins of gems and of Python packages are taken apart, and of what is left nothing more. -/
theorem pinnedBatches_expanded :
    ∃ maps, pinnedBatches.expand = .ok maps ∧ pinnedBatches.Expanded maps ∧
    pinnedBatches.withoutPins.expand = .ok [pinnedBatches.withoutPins] := by
  obtain ⟨maps, h⟩ := exists_eq_ok_of_isOk (show pinnedBatches.expand.isOk = true by decide +kernel)
  obtain ⟨hexact, hagain⟩ := (expand_exact pinnedBatches).2 maps h
  exact ⟨maps, h, (hexact maps).2 rfl, hagain⟩

end DocumentMap

end Provision
