import Provision.Handler.Packages
import Provision.Proofs.Results
import Provision.Proofs.Table
import Provision.Renaming

/-!
# How packages are sorted into states

`groupItems` goes through the placed packages once and adds each to the list of its state. So a
state's list is made of the packages placed in it, in their order, and a state without a package has
none (`get?_groupItems`). A mapping arrives as a list of pairs and bare names; `packages_listed`
says that this detour does not matter, and every entry of the mapping is placed as it is.
-/

namespace Provision.Handler

variable {s : Schema} {key state : String} {style : PinStyle} {e : String × Value}
  {l placed : List (String × Value)} {a : Attributes}

/-- The packages that are placed in a state, in their order. -/
def itemsOf (state : String) (placed : List (String × Value)) : List Value :=
  (placed.filter (·.1 = state)).map (·.2)

/-- A handler that finds buckets is what a module is built with. -/
theorem build_eq_ok {t : HandlerTable} {handler : Handler} {buckets : Buckets}
    (ht : t.get? s.id = some handler) (hbuckets : handler s a = .ok buckets)
    (hne : buckets.isEmpty = false) : t.build s a = .ok buckets := by
  unfold HandlerTable.build
  rw [ht]
  dsimp only
  rw [hbuckets, ok_bind, if_neg (Bool.eq_false_iff.1 hne)]

theorem itemsOf_cons (p : String × Value) :
    itemsOf state (p :: placed) =
      if p.1 = state then p.2 :: itemsOf state placed else itemsOf state placed := by
  unfold itemsOf
  by_cases hp : p.1 = state
  · simp [hp]
  · simp [hp]

/-- What was in a state's list stays at its beginning. -/
theorem get?_foldl_addItem (lists : Table (List Value)) : (placed.foldl addItem lists).get? state =
    if itemsOf state placed = [] then lists.get? state
    else some ((lists.get? state).getD [] ++ itemsOf state placed) := by
  -- the lists are generalised, as every package adds to one of them
  induction placed generalizing lists with
  | nil => rfl
  | cons p placed ih =>
    rw [List.foldl_cons, ih, itemsOf_cons]
    by_cases hp : p.1 = state
    · have hadded : (addItem lists p).get? state = some ((lists.get? state).getD [] ++ [p.2]) := by
        rw [← hp]
        exact Table.get?_insert_self
      rw [if_pos hp, hadded, if_neg (List.cons_ne_nil _ _), Option.getD_some, List.append_assoc]
      split
      · next hnil => rw [hnil]
      · rfl
    · have hother : (addItem lists p).get? state = lists.get? state :=
        Table.get?_insert_of_ne fun heq => hp heq.symm
      rw [if_neg hp, hother]

/-- A state has the packages that are placed in it, if there are any. -/
theorem get?_groupItems : (groupItems placed).get? state =
    if itemsOf state placed = [] then none else some (itemsOf state placed) :=
  get?_foldl_addItem ∅

theorem itemsOf_ne_nil_iff : itemsOf state placed ≠ [] ↔ ∃ p ∈ placed, p.1 = state := by
  unfold itemsOf
  simp [List.filter_eq_nil_iff]

/-- There is a state where a package is placed, and no other. -/
theorem contains_groupItems :
    (groupItems placed).contains state = true ↔ ∃ p ∈ placed, p.1 = state := by
  rw [← itemsOf_ne_nil_iff]
  unfold Table.contains
  rw [get?_groupItems]
  split <;> simp_all

/-- Where a package is placed there is a state. -/
theorem isEmpty_groupItems_cons (p : String × Value) :
    (groupItems (p :: placed)).isEmpty = false := by
  obtain ⟨items, hitems⟩ :=
    Table.contains_iff.1 (contains_groupItems.2 ⟨p, List.mem_cons_self .., rfl⟩)
  exact Table.isEmpty_of_get? hitems

/-- An entry is placed in the same way whether it comes as a pair or, without a value, as a bare
name. -/
theorem placeEntry_ofEntry :
    placeEntry s key style (Value.ofEntry e) =
      (placePair s style e).map fun placed => [placed] := by
  unfold Value.ofEntry placePair
  by_cases htruthy : e.2.isTruthy = true
  · rw [if_pos htruthy, if_pos htruthy]
    show [(e.1, e.2)].mapM (placePair s style) = _
    rw [List.mapM_cons, List.mapM_nil, placePair, if_pos htruthy]
    cases e.2.toText? with
    | none => rfl
    | some text =>
      dsimp only
      split <;> rfl
  · rw [if_neg htruthy, if_neg htruthy]
    rfl

/-- The entries of a mapping are placed one by one, and grouped by state with all other
attributes. -/
theorem packages_listed (h : a.get? key = some (.list (l.map Value.ofEntry))) :
    packages key style s a = (l.mapM (placePair s style)).map fun placed =>
      (groupItems placed).map fun items => (a.erase key).insert key (.list items) := by
  have hplaced : (l.map Value.ofEntry).mapM (placeEntry s key style)
      = (l.mapM (placePair s style)).map (List.map fun placed => [placed]) := by
    rw [List.mapM_map, ← mapM_map]
    exact mapM_congr_of_mem fun e _ => placeEntry_ofEntry
  unfold packages packageEntries
  rw [h, ok_bind, hplaced]
  cases l.mapM (placePair s style) with
  | error e => rfl
  | ok placed =>
    show Except.ok ((groupItems (placed.map fun placed => [placed]).flatten).map _) = _
    rw [← List.flatMap_def, List.flatMap_singleton']
    rfl

end Provision.Handler
