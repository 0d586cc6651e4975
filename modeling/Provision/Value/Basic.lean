import Provision.Number.Binary64
import Provision.Table.Basic

/-!
# Parameter values

A step's parameters are loosely shaped: a scalar, a list of scalars and single pairs, or a mapping.
`Value` keeps the shape explicit, so that whoever reads a parameter matches on what it expects.
A mapping's entries are a plain list because a type cannot hold a `Table` of itself; `Value.Ordered`
says that the entries ascend by key all the way down, as they do in every value that was read.
-/

namespace Provision

/-- A parameter or attribute value. -/
inductive Value where
  | null
  | bool (b : Bool)
  /-- An integer of 64 bits. -/
  | int (n : Int64)
  /-- A finite number with a fraction or an exponent, or an integer beyond 64 bits. Infinities and
  what is no number are left out: a value could be made with them in memory, but none that was read
  holds one. -/
  | float (x : Binary64)
  | str (s : String)
  | list (items : List Value)
  /-- A mapping, by ascending key. -/
  | map (entries : List (String × Value))
deriving Inhabited

/-- A step's parameters, by raw attribute name. -/
abbrev Parameters := Table Value

/-- A document's attributes, by backend key. -/
abbrev Attributes := Table Value

namespace Value

/-- The mapping with the entries of a table. -/
def ofTable (t : Table Value) : Value := .map t.entries

/-- The mapping with one entry. -/
def pair (k : String) (v : Value) : Value := .map [(k, v)]

/-- The list of some texts. -/
def strings (l : List String) : Value := .list (l.map .str)

/-- Whether this is the absent value. -/
def isNull : Value → Bool
  | .null => true
  | _ => false

/-- Whether this is a list. -/
def isList : Value → Bool
  | .list _ => true
  | _ => false

/-- The text of a text value. -/
def text? : Value → Option String
  | .str s => some s
  | _ => none

/-- The items of a list value. -/
def items? : Value → Option (List Value)
  | .list l => some l
  | _ => none

mutual

/-- Structural equality of values. -/
def same : Value → Value → Bool
  | .null, .null => true
  | .bool a, .bool b => a == b
  | .int a, .int b => a == b
  | .float a, .float b => a == b
  | .str a, .str b => a == b
  | .list l, .list m => sameAll l m
  | .map l, .map m => sameEntries l m
  | _, _ => false

/-- Structural equality of lists of values. -/
def sameAll : List Value → List Value → Bool
  | [], [] => true
  | v :: l, w :: m => same v w && sameAll l m
  | _, _ => false

/-- Structural equality of lists of entries. -/
def sameEntries : List (String × Value) → List (String × Value) → Bool
  | [], [] => true
  | (j, v) :: l, (k, w) :: m => j == k && same v w && sameEntries l m
  | _, _ => false

end

mutual

theorem same_iff : ∀ (v w : Value), same v w = true ↔ v = w
  | .null, w => by cases w <;> simp [same]
  | .bool _, w => by cases w <;> simp [same]
  | .int _, w => by cases w <;> simp [same]
  | .float _, w => by cases w <;> simp [same]
  | .str _, w => by cases w <;> simp [same]
  | .list l, w => by cases w <;> simp [same, sameAll_iff l]
  | .map l, w => by cases w <;> simp [same, sameEntries_iff l]

theorem sameAll_iff : ∀ (l m : List Value), sameAll l m = true ↔ l = m
  | [], m => by cases m <;> simp [sameAll]
  | v :: l, m => by cases m <;> simp [sameAll, same_iff v, sameAll_iff l]

theorem sameEntries_iff : ∀ (l m : List (String × Value)), sameEntries l m = true ↔ l = m
  | [], m => by cases m <;> simp [sameEntries]
  | (k, v) :: l, m => by
    cases m with
    | nil => simp [sameEntries]
    | cons p m =>
      obtain ⟨j, w⟩ := p
      simp [sameEntries, same_iff v, sameEntries_iff l]

end

instance : DecidableEq Value := fun _ _ => decidable_of_iff _ (same_iff _ _)

mutual

/-- The entries of every mapping inside the value ascend by key. -/
def Ordered : Value → Prop
  | .list l => OrderedAll l
  | .map l => l.Pairwise (fun a b => Text.Before a.1 b.1) ∧ OrderedEntries l
  | _ => True

/-- Every value of the list is ordered. -/
def OrderedAll : List Value → Prop
  | [] => True
  | v :: l => Ordered v ∧ OrderedAll l

/-- Every value among the entries is ordered. -/
def OrderedEntries : List (String × Value) → Prop
  | [] => True
  | (_, v) :: l => Ordered v ∧ OrderedEntries l

end

end Value

end Provision
