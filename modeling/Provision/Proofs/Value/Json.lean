import Provision.Proofs.Json.Reader
import Provision.Proofs.Table

/-!
# Values as JSON

A value whose mappings ascend by key is what its tree stands for (`Value.ofJson_toJson`). The kind
of a value is not written down: it is taken from the shape of the tree, and each kind has a shape of
its own, so that any two values are told apart by their trees (`Value.toJson_inj`). What is read
where a value was printed is the value again (`Value.readBack`), but for what reading makes of its
numbers and its nesting. Integers are read as they are, so the tree of a value is legible if the
text of each of its other numbers stands for that number (`Value.legible_toJson`).
-/

namespace Provision

namespace Value

mutual

/-- The numbers inside a value that are no integers. -/
def floats : Value → List Binary64
  | .float x => [x]
  | .list l => floatsOfItems l
  | .map l => floatsOfEntries l
  | _ => []

/-- The numbers inside the items that are no integers. -/
def floatsOfItems : List Value → List Binary64
  | [] => []
  | v :: l => floats v ++ floatsOfItems l

/-- The numbers inside the entries that are no integers. -/
def floatsOfEntries : List (String × Value) → List Binary64
  | [] => []
  | (_, v) :: l => floats v ++ floatsOfEntries l

end

mutual

/-- Whether a value is ordered can be computed. -/
def decidableOrdered : (v : Value) → Decidable v.Ordered
  | .null | .bool _ | .int _ | .float _ | .str _ => .isTrue trivial
  | .list l => decidableOrderedAll l
  | .map l =>
    have := decidableOrderedEntries l
    inferInstanceAs (Decidable (l.Pairwise (fun a b => Text.Before a.1 b.1) ∧ OrderedEntries l))

/-- Whether all items are ordered can be computed. -/
def decidableOrderedAll : (l : List Value) → Decidable (OrderedAll l)
  | [] => .isTrue trivial
  | v :: l =>
    have := decidableOrdered v
    have := decidableOrderedAll l
    inferInstanceAs (Decidable (v.Ordered ∧ OrderedAll l))

/-- Whether all entries are ordered can be computed. -/
def decidableOrderedEntries : (l : List (String × Value)) → Decidable (OrderedEntries l)
  | [] => .isTrue trivial
  | (_, v) :: l =>
    have := decidableOrdered v
    have := decidableOrderedEntries l
    inferInstanceAs (Decidable (v.Ordered ∧ OrderedEntries l))

end

instance : DecidablePred Ordered := decidableOrdered

mutual

/-- A value with its mappings in order is read as it was written. -/
theorem ofJson_toJson {v : Value} (h : v.Ordered) : ofJson v.toJson = v := by
  cases v with
  | null | bool | float | str => rfl
  | int n => rw [toJson, ofJson, ofInt, Word.ofInt?_toInt]
  | list l => rw [toJson, ofJson, ofJsonItems_toJsonItems h]
  | map l =>
    obtain ⟨hsorted, hentries⟩ := h
    have htable : Table.ofList l = ⟨l, hsorted⟩ := Table.ofList_entries (t := ⟨l, hsorted⟩)
    rw [toJson, ofJson, ofJsonMembers_toJsonMembers hentries, htable]
    rfl

theorem ofJsonItems_toJsonItems {l : List Value} (h : OrderedAll l) :
    ofJsonItems (toJsonItems l) = l := by
  cases l with
  | nil => rfl
  | cons v l => rw [toJsonItems, ofJsonItems, ofJson_toJson h.1, ofJsonItems_toJsonItems h.2]

theorem ofJsonMembers_toJsonMembers {l : List (String × Value)} (h : OrderedEntries l) :
    ofJsonMembers (toJsonMembers l) = l := by
  match l, h with
  | [], _ => rfl
  | (k, v) :: l, h =>
    rw [toJsonMembers, ofJsonMembers, ofJson_toJson h.1, ofJsonMembers_toJsonMembers h.2]

end

mutual

/-- The kind of a value shows in its tree, and so does all that is inside. -/
theorem toJson_inj : ∀ {v w : Value}, v.toJson = w.toJson ↔ v = w
  | .null, w => by cases w <;> simp [toJson]
  | .bool _, w => by cases w <;> simp [toJson]
  | .int _, w => by cases w <;> simp [toJson, Int64.toInt_inj]
  | .float _, w => by cases w <;> simp [toJson]
  | .str _, w => by cases w <;> simp [toJson]
  | .list l, w => by cases w <;> simp [toJson, toJsonItems_inj (l := l)]
  | .map l, w => by cases w <;> simp [toJson, toJsonMembers_inj (l := l)]

theorem toJsonItems_inj : ∀ {l l' : List Value}, toJsonItems l = toJsonItems l' ↔ l = l'
  | [], l' => by cases l' <;> simp [toJsonItems]
  | v :: l, l' => by cases l' <;> simp [toJsonItems, toJson_inj (v := v), toJsonItems_inj (l := l)]

theorem toJsonMembers_inj :
    ∀ {l l' : List (String × Value)}, toJsonMembers l = toJsonMembers l' ↔ l = l'
  | [], l' => by cases l' <;> simp [toJsonMembers]
  | (k, v) :: l, l' => by
    cases l' with
    | nil => simp [toJsonMembers]
    | cons e l' =>
      obtain ⟨k', v'⟩ := e
      simp [toJsonMembers, toJson_inj (v := v), toJsonMembers_inj (l := l)]

end

/-! ## Printing -/

/-- What is written for an integer value stands for it. -/
theorem spells_toInt (n : Int64) : Json.Spells (toString n.toInt) (.int n.toInt) := by
  have hgreatest : Int64.maxValue.toInt ≤ (Word.greatest : Int) := by decide
  exact .int n.minValue_le_toInt (Int.le_trans n.toInt_le hgreatest)

mutual

/-- What is read where a value was printed, with so many lists and mappings still allowed inside
each other. -/
def readBack (room : Nat) : Value → Json.Source
  | .null => .null
  | .bool b => .bool b
  | .int n => .int n.toInt
  | .float x => .ofSpelling x.toJsonText
  | .str s => .str s
  | .list l => if room = 0 then .invalid else .arr (readBackItems (room - 1) l)
  | .map l => if room = 0 then .invalid else .obj (readBackEntries (room - 1) l)

/-- What is read for each item. -/
def readBackItems (room : Nat) : List Value → List Json.Source
  | [] => []
  | v :: l => readBack room v :: readBackItems room l

/-- What is read for each entry. -/
def readBackEntries (room : Nat) : List (String × Value) → List (Option String × Json.Source)
  | [] => []
  | (k, v) :: l => (some k, readBack room v) :: readBackEntries room l

end

mutual

theorem readBack_toJson (v : Value) (room : Nat) : v.toJson.readBack room = v.readBack room := by
  match v with
  | .null | .bool _ | .float _ | .str _ => rfl
  | .int n => exact (spells_toInt n).ofSpelling_eq
  | .list l => rw [toJson, Json.readBack, readBack, readBackItems_toJsonItems]
  | .map l => rw [toJson, Json.readBack, readBack, readBackMembers_toJsonMembers]

theorem readBackItems_toJsonItems (l : List Value) (room : Nat) :
    Json.readBackItems room (toJsonItems l) = readBackItems room l := by
  match l with
  | [] => rfl
  | v :: l =>
    rw [toJsonItems, Json.readBackItems, readBackItems, readBack_toJson, readBackItems_toJsonItems]

theorem readBackMembers_toJsonMembers (l : List (String × Value)) (room : Nat) :
    Json.readBackMembers room (toJsonMembers l) = readBackEntries room l := by
  match l with
  | [] => rfl
  | (k, v) :: l =>
    rw [toJsonMembers, Json.readBackMembers, readBackEntries, readBack_toJson,
      readBackMembers_toJsonMembers]

end

mutual

/-- A value is legible if its floats are what they are written as. -/
theorem legible_toJson {v : Value} (h : ∀ x ∈ v.floats, Json.Spells x.toJsonText (.float x)) :
    v.toJson.Legible := by
  cases v with
  | null | bool | str => trivial
  | int n => exact spells_toInt n
  | float x => exact h x (List.mem_singleton_self x)
  | list l => exact legibleItems_toJsonItems h
  | map l => exact legibleMembers_toJsonMembers h

theorem legibleItems_toJsonItems {l : List Value}
    (h : ∀ x ∈ floatsOfItems l, Json.Spells x.toJsonText (.float x)) :
    Json.LegibleItems (toJsonItems l) := by
  cases l with
  | nil => trivial
  | cons v l =>
    rw [floatsOfItems, List.forall_mem_append] at h
    exact ⟨legible_toJson h.1, legibleItems_toJsonItems h.2⟩

theorem legibleMembers_toJsonMembers {l : List (String × Value)}
    (h : ∀ x ∈ floatsOfEntries l, Json.Spells x.toJsonText (.float x)) :
    Json.LegibleMembers (toJsonMembers l) := by
  match l, h with
  | [], _ => trivial
  | (_, v) :: l, h =>
    rw [floatsOfEntries, List.forall_mem_append] at h
    exact ⟨legible_toJson h.1, legibleMembers_toJsonMembers h.2⟩

end

end Value

end Provision
