import Provision.Text.Order

/-!
# Tables

A `Table` maps text keys to values and lists them by ascending key. That the keys ascend is a field
of the type, so two tables with the same entries are equal, and whatever is written from a table has
one spelling. `Provision.Table.Lemmas` says what each operation does to a look-up.
-/

namespace Provision

/-- A finite map from text keys, listed by ascending key. -/
@[ext] structure Table (α : Type) where
  /-- The keys with their values, by ascending key. -/
  entries : List (String × α)
  /-- Each key stands before all that follow it. -/
  sorted : entries.Pairwise (fun a b => Text.Before a.1 b.1)
deriving DecidableEq

namespace Table

variable {α β : Type}

/-- Puts a pair into its place in a list by ascending key, over a pair of the same key. -/
def place (k : String) (v : α) : List (String × α) → List (String × α)
  | [] => [(k, v)]
  | (k', v') :: rest =>
    if Text.Before k k' then (k, v) :: (k', v') :: rest
    else if k = k' then (k, v) :: rest
    else (k', v') :: place k v rest

theorem lt_of_mem_place {b k : String} {v : α} {l : List (String × α)} (hk : Text.Before b k)
    (h : ∀ e ∈ l, Text.Before b e.1) : ∀ e ∈ place k v l, Text.Before b e.1 := by
  induction l with
  | nil => simp [place, hk]
  | cons p rest ih =>
    obtain ⟨k', v'⟩ := p
    simp only [List.mem_cons, forall_eq_or_imp] at h
    simp only [place]
    split
    · simp only [List.mem_cons, forall_eq_or_imp]
      exact ⟨hk, h.1, h.2⟩
    · split
      · simp only [List.mem_cons, forall_eq_or_imp]
        exact ⟨hk, h.2⟩
      · simp only [List.mem_cons, forall_eq_or_imp]
        exact ⟨h.1, ih h.2⟩

/-- A list in order stays in order. -/
theorem pairwise_place {k : String} {v : α} {l : List (String × α)}
    (h : l.Pairwise (fun a b => Text.Before a.1 b.1)) :
    (place k v l).Pairwise (fun a b => Text.Before a.1 b.1) := by
  induction l with
  | nil => simp [place]
  | cons p rest ih =>
    obtain ⟨k', v'⟩ := p
    obtain ⟨hhead, htail⟩ := List.pairwise_cons.1 h
    simp only [place]
    split
    · next hlt =>
      refine List.pairwise_cons.2 ⟨?_, h⟩
      simp only [List.mem_cons, forall_eq_or_imp]
      exact ⟨hlt, fun e he => hlt.trans (hhead e he)⟩
    · next hnlt =>
      split
      · next heq =>
        subst heq
        exact List.pairwise_cons.2 ⟨hhead, htail⟩
      · next hne =>
        have hgt : Text.Before k' k := (Text.before_or_before hne).resolve_left hnlt
        exact List.pairwise_cons.2 ⟨lt_of_mem_place hgt hhead, ih htail⟩

/-- The table without entries. -/
def empty : Table α := ⟨[], List.Pairwise.nil⟩

instance : EmptyCollection (Table α) := ⟨empty⟩

instance : Inhabited (Table α) := ⟨empty⟩

/-- Whether there is no entry. -/
def isEmpty (t : Table α) : Bool := t.entries.isEmpty

/-- The number of entries. -/
def size (t : Table α) : Nat := t.entries.length

/-- The keys in ascending order. -/
def keys (t : Table α) : List String := t.entries.map (·.1)

/-- The values in the order of their keys. -/
def values (t : Table α) : List α := t.entries.map (·.2)

/-- The value of a key, if the table has it. -/
def get? (t : Table α) (k : String) : Option α := (t.entries.find? (·.1 == k)).map (·.2)

/-- Whether the table has a key. -/
def contains (t : Table α) (k : String) : Bool := (t.get? k).isSome

/-- The table with `k` mapped to `v`. -/
def insert (t : Table α) (k : String) (v : α) : Table α :=
  ⟨place k v t.entries, pairwise_place t.sorted⟩

/-- The entries that satisfy a test. -/
def filter (p : String → α → Bool) (t : Table α) : Table α :=
  ⟨t.entries.filter fun e => p e.1 e.2, t.sorted.filter _⟩

/-- The table without the key `k`. -/
def erase (t : Table α) (k : String) : Table α := t.filter fun k' _ => k' ≠ k

/-- Applies a function to every value. -/
def map (f : α → β) (t : Table α) : Table β :=
  ⟨t.entries.map fun e => (e.1, f e.2), List.pairwise_map.2 t.sorted⟩

/-- The table with the entries of a list written over it from left to right. -/
def insertAll (t : Table α) (l : List (String × α)) : Table α :=
  l.foldl (fun acc e => acc.insert e.1 e.2) t

/-- The table of a list of pairs. Of several pairs with one key the last counts. -/
def ofList (l : List (String × α)) : Table α := empty.insertAll l

/-- Both tables together; where they share a key, the second one's value counts. -/
def union (t u : Table α) : Table α := t.insertAll u.entries

/-- The table with one entry. -/
def singleton (k : String) (v : α) : Table α := empty.insert k v

end Table

end Provision
