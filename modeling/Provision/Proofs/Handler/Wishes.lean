import Provision.Proofs.Expansion
import Provision.Proofs.Handler.Packages
import Provision.Proofs.Pin

/-!
# What a mapping of packages asks for

A value in a mapping says in which state its package is to be, or else in which version, and a value
that says nothing leaves both open. The packages with their wishes are what the mapping comes to
(`wishes`): they are placed one by one (`mapM_placePair`), the ones that are to be removed make one
list, and all others make another one, where the versions are written behind the packages. Out of
that list the pins can be told again (`pins_installed`, `unpinned_installed`) if no package looks
like one, which is what `Legible` asks of the entries.
-/

namespace Provision

/-- What a mapping can ask for a package. -/
inductive Wish where
  /-- To be there, in any version. -/
  | installed
  | removed
  /-- To be there in one version. -/
  | version (v : String)
deriving DecidableEq

/-- What a value asks for: a state, or a version if its text names no state. -/
def Wish.of? (v : Value) : Option Wish :=
  if v.isTruthy then v.toText?.map fun text =>
    if text = "installed" then .installed else if text = "removed" then .removed else .version text
  else some .installed

/-- If a version is asked for, neither the package nor the version is blank. -/
def Wish.Readable (package : String) : Wish → Prop
  | .version v => Text.isBlankText package.toList = false ∧ Text.isBlankText v.toList = false
  | _ => True

instance {package : String} : (w : Wish) → Decidable (w.Readable package)
  | .version _ => inferInstanceAs (Decidable (_ ∧ _))
  | .installed => inferInstanceAs (Decidable True)
  | .removed => inferInstanceAs (Decidable True)

/-- The packages of a mapping in their order, with what is asked for them. -/
def wishes (l : List (String × Value)) : List (String × Wish) :=
  l.filterMap fun e => (Wish.of? e.2).map (e.1, ·)

/-- The packages that are to be there in any version. -/
def keptPackages (ws : List (String × Wish)) : List String :=
  (ws.filter (·.2 = .installed)).map (·.1)

/-- The packages that are not to be there. -/
def removedPackages (ws : List (String × Wish)) : List String :=
  (ws.filter (·.2 = .removed)).map (·.1)

/-- The packages that are to be there in a version, with the version. -/
def pinnedPackages (ws : List (String × Wish)) : List (String × String) :=
  ws.filterMap fun w => match w.2 with
    | .version v => some (w.1, v)
    | _ => none

/-- An entry of a mapping that can be read: the package cannot be taken for a pin or for the
beginning of one, a value that says something is a scalar, and a pin has neither a blank package nor
a blank version. -/
structure Legible (e : String × Value) : Prop where
  /-- The package does not hold two equals signs. -/
  whole : ¬ pinSeparator <:+: e.1.toList
  /-- The package does not end in an equals sign. -/
  closed : ¬ ['='] <:+ e.1.toList
  /-- The value is a scalar if it is truthy. -/
  scalar : e.2.isTruthy = true → e.2.toText?.isSome = true
  /-- The parts of a pin are not blank. -/
  readable : ∀ w ∈ Wish.of? e.2, w.Readable e.1

instance (e : String × Value) : Decidable (Legible e) :=
  decidable_of_iff ((¬ pinSeparator <:+: e.1.toList) ∧ (¬ ['='] <:+ e.1.toList) ∧
      (e.2.isTruthy = true → e.2.toText?.isSome = true) ∧ ∀ w ∈ Wish.of? e.2, w.Readable e.1)
    ⟨fun h => ⟨h.1, h.2.1, h.2.2.1, h.2.2.2⟩, fun h => ⟨h.whole, h.closed, h.scalar, h.readable⟩⟩

variable {l : List (String × Value)} {e : String × Value} {w : Wish} {ws : List (String × Wish)}
  {s : Schema} {state : String}

theorem Legible.exists_wish (h : Legible e) : ∃ w, Wish.of? e.2 = some w := by
  unfold Wish.of?
  split
  · next htruthy =>
    obtain ⟨text, htext⟩ := Option.isSome_iff_exists.1 (h.scalar htruthy)
    rw [htext]
    exact ⟨_, rfl⟩
  · exact ⟨_, rfl⟩

theorem wishes_cons (h : Wish.of? e.2 = some w) : wishes (e :: l) = (e.1, w) :: wishes l := by
  unfold wishes
  rw [List.filterMap_cons, h, Option.map_some]

theorem mem_wishes {p : String × Wish} :
    p ∈ wishes l ↔ ∃ e ∈ l, e.1 = p.1 ∧ Wish.of? e.2 = some p.2 := by
  unfold wishes
  simp only [List.mem_filterMap, Option.map_eq_some_iff, Prod.ext_iff]
  constructor
  · intro h
    obtain ⟨e, he, w, hw, hpackage, rfl⟩ := h
    exact ⟨e, he, hpackage, hw⟩
  · intro h
    obtain ⟨e, he, hpackage, hw⟩ := h
    exact ⟨e, he, p.2, hw, hpackage, rfl⟩

theorem readable_of_mem_wishes (h : ∀ e ∈ l, Legible e) {p : String × Wish} (hp : p ∈ wishes l) :
    ¬ pinSeparator <:+: p.1.toList ∧ ¬ ['='] <:+ p.1.toList ∧ p.2.Readable p.1 := by
  obtain ⟨e, he, hpackage, hw⟩ := mem_wishes.1 hp
  have hlegible := h e he
  rw [← hpackage]
  exact ⟨hlegible.whole, hlegible.closed, hlegible.readable p.2 hw⟩

theorem mem_pinnedPackages {package v : String} :
    (package, v) ∈ pinnedPackages ws ↔ (package, Wish.version v) ∈ ws := by
  unfold pinnedPackages
  rw [List.mem_filterMap]
  constructor
  · intro h
    obtain ⟨⟨package', w⟩, hp, heq⟩ := h
    cases w with
    | version v' =>
      cases heq
      exact hp
    | installed => cases heq
    | removed => cases heq
  · intro h
    exact ⟨_, h, rfl⟩

/-- No package is left out. -/
theorem map_fst_wishes (h : ∀ e ∈ l, Legible e) : (wishes l).map (·.1) = l.map (·.1) := by
  induction l with
  | nil => rfl
  | cons e l ih =>
    obtain ⟨he, hl⟩ := List.forall_mem_cons.1 h
    obtain ⟨w, hw⟩ := he.exists_wish
    rw [wishes_cons hw, List.map_cons, List.map_cons, ih hl]

/-! ## Sorting -/

/-- The state and the list item of a package. -/
def Wish.place (package : String) : Wish → String × Value
  | .installed => ("installed", .str package)
  | .removed => ("removed", .str package)
  | .version v => ("installed", .str (package ++ "==" ++ v))

/-- The packages in their places. -/
def placed (ws : List (String × Wish)) : List (String × Value) := ws.map fun w => w.2.place w.1

/-- The list that a state gets. -/
def listFor (state : String) (ws : List (String × Wish)) : List Value :=
  Handler.itemsOf state (placed ws)

/-- Where `installed` and `removed` are the states, an entry goes where its wish says. -/
theorem placePair_of_wish (hs : s.states = ["installed", "removed"]) (h : Wish.of? e.2 = some w) :
    Handler.placePair s (.joined "==") e = .ok (w.place e.1) := by
  have hdefault : s.defaultState = "installed" := by simp [Schema.defaultState, hs]
  unfold Wish.of? at h
  unfold Handler.placePair
  rw [hdefault]
  by_cases htruthy : e.2.isTruthy = true
  · rw [if_pos htruthy] at h ⊢
    obtain ⟨text, htext, rfl⟩ := Option.map_eq_some_iff.1 h
    rw [htext]
    dsimp only
    have hstate : s.hasState text = true ↔ text = "installed" ∨ text = "removed" := by
      simp [Schema.hasState, hs]
    by_cases hinstalled : text = "installed"
    · rw [if_pos (hstate.2 (.inl hinstalled)), if_pos hinstalled, hinstalled]
      rfl
    · rw [if_neg hinstalled]
      by_cases hremoved : text = "removed"
      · rw [if_pos (hstate.2 (.inr hremoved)), if_pos hremoved, hremoved]
        rfl
      · rw [if_neg fun h => (hstate.1 h).elim hinstalled hremoved, if_neg hremoved]
        rfl
  · rw [if_neg htruthy] at h ⊢
    cases h
    rfl

/-- The packages of a mapping are placed as it asks. -/
theorem mapM_placePair (hs : s.states = ["installed", "removed"]) (h : ∀ e ∈ l, Legible e) :
    l.mapM (Handler.placePair s (.joined "==")) = .ok (placed (wishes l)) := by
  induction l with
  | nil => rfl
  | cons e l ih =>
    obtain ⟨he, hl⟩ := List.forall_mem_cons.1 h
    obtain ⟨w, hw⟩ := he.exists_wish
    rw [List.mapM_cons, placePair_of_wish hs hw, ih hl, wishes_cons hw]
    rfl

/-! ## The lists of the states -/

theorem listFor_removed : listFor "removed" ws = (removedPackages ws).map .str := by
  induction ws with
  | nil => rfl
  | cons p ws ih =>
    obtain ⟨package, w⟩ := p
    unfold listFor placed at ih ⊢
    rw [List.map_cons, Handler.itemsOf_cons, ih]
    cases w <;> rfl

/-- Into the list of the default state go the packages that are to be there, versions and all. -/
theorem listFor_installed_cons (package : String) (w : Wish) :
    listFor "installed" ((package, w) :: ws) =
      match w with
      | .installed => .str package :: listFor "installed" ws
      | .removed => listFor "installed" ws
      | .version v => .str (package ++ "==" ++ v) :: listFor "installed" ws := by
  unfold listFor placed
  rw [List.map_cons, Handler.itemsOf_cons]
  cases w <;> rfl

/-- Nothing is to be installed if all wishes are to remove something. -/
theorem listFor_installed_eq_nil_iff :
    listFor "installed" ws = [] ↔ ∀ p ∈ ws, p.2 = .removed := by
  induction ws with
  | nil => simp [listFor, placed, Handler.itemsOf]
  | cons p ws ih =>
    obtain ⟨package, w⟩ := p
    rw [listFor_installed_cons, List.forall_mem_cons, ← ih]
    cases w <;> simp

/-- A package that does not hold the separator is not taken for a pin. -/
theorem isPinned_package {package : String} (h : ¬ pinSeparator <:+: package.toList) :
    (Value.str package).isPinned = false :=
  Bool.eq_false_iff.2 fun hpinned => h (Value.isPinned_str_iff.1 hpinned)

theorem isPinned_pin (package v : String) : (Value.str (package ++ "==" ++ v)).isPinned = true := by
  refine Value.isPinned_str_iff.2 ⟨package.toList, v.toList, ?_⟩
  simp [pinSeparator]

/-- In no other state is there anything that is taken for a pin. -/
theorem isPinned_of_mem_listFor (h : ∀ p ∈ ws, ¬ pinSeparator <:+: p.1.toList)
    (hstate : state ≠ "installed") {v : Value} (hv : v ∈ listFor state ws) :
    v.isPinned = false := by
  unfold listFor Handler.itemsOf placed at hv
  obtain ⟨item, hitem, rfl⟩ := List.mem_map.1 hv
  obtain ⟨hplaced, hin⟩ := List.mem_filter.1 hitem
  obtain ⟨⟨package, w⟩, hp, rfl⟩ := List.mem_map.1 hplaced
  cases w with
  | removed => exact isPinned_package (h _ hp)
  | installed => exact absurd (of_decide_eq_true hin).symm hstate
  | version v => exact absurd (of_decide_eq_true hin).symm hstate

/-- The pins of the list, read off it. -/
theorem pins_installed (h : ∀ p ∈ ws, ¬ pinSeparator <:+: p.1.toList) :
    ((listFor "installed" ws).filter (·.isPinned)).filterMap Value.text? =
      (pinnedPackages ws).map fun p => p.1 ++ "==" ++ p.2 := by
  induction ws with
  | nil => rfl
  | cons p ws ih =>
    obtain ⟨package, w⟩ := p
    obtain ⟨hp, hws⟩ := List.forall_mem_cons.1 h
    have hrest := ih hws
    rw [listFor_installed_cons]
    cases w with
    | installed =>
      dsimp only
      rw [List.filter_cons_of_neg (by simp [isPinned_package hp]), hrest]
      rfl
    | removed => exact hrest
    | version v =>
      dsimp only
      rw [List.filter_cons_of_pos (isPinned_pin package v), List.filterMap_cons, hrest]
      rfl

/-- What is left of the list without them. -/
theorem unpinned_installed (h : ∀ p ∈ ws, ¬ pinSeparator <:+: p.1.toList) :
    (listFor "installed" ws).filter (!·.isPinned) = (keptPackages ws).map .str := by
  induction ws with
  | nil => rfl
  | cons p ws ih =>
    obtain ⟨package, w⟩ := p
    obtain ⟨hp, hws⟩ := List.forall_mem_cons.1 h
    have hrest := ih hws
    rw [listFor_installed_cons]
    cases w with
    | installed =>
      dsimp only
      rw [List.filter_cons_of_pos (by simp [isPinned_package hp]), hrest]
      rfl
    | removed => exact hrest
    | version v =>
      dsimp only
      rw [List.filter_cons_of_neg (by simp [isPinned_pin]), hrest]
      rfl

/-- No package that is to be removed is taken for a pin. -/
theorem unpinned_removed (h : ∀ p ∈ ws, ¬ pinSeparator <:+: p.1.toList) :
    (listFor "removed" ws).filter (!·.isPinned) = (removedPackages ws).map .str := by
  rw [← listFor_removed]
  refine List.filter_eq_self.2 fun v hv => ?_
  rw [isPinned_of_mem_listFor h (by decide) hv]
  rfl

end Provision
