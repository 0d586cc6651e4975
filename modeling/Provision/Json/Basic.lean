import Provision.Number.Rounding
import Provision.Value.Basic

/-!
# JSON trees

A `Json` tree keeps an object's members as they are written, in order and with repeats; whoever
reads one decides what a repeat means. A `Value` is the tree with its objects made into mappings
(`Value.ofJson`: the last of several members with one name counts) and goes back to a tree whose
members ascend by name (`Value.toJson`).
-/

namespace Provision

/-- A JSON tree. Integers are kept apart from all other numbers. -/
inductive Json where
  | null
  | bool (b : Bool)
  /-- A number written as an integer. -/
  | int (n : Int)
  /-- Any other number. -/
  | float (x : Binary64)
  | str (s : String)
  | arr (items : List Json)
  /-- An object, with its members as written. -/
  | obj (members : List (String × Json))
deriving Inhabited

/-- The value of an integer: itself, or the nearest other number if it is none of 64 bits. -/
def Value.ofInt (n : Int) : Value :=
  match Word.ofInt? n with
  | some i => .int i
  | none => .float (.ofInt n)

mutual

/-- The value that a tree stands for. -/
def Value.ofJson : Json → Value
  | .null => .null
  | .bool b => .bool b
  | .int n => .ofInt n
  | .float x => .float x
  | .str s => .str s
  | .arr l => .list (Value.ofJsonItems l)
  | .obj l => .ofTable (.ofList (Value.ofJsonMembers l))

/-- The values of an array's items. -/
def Value.ofJsonItems : List Json → List Value
  | [] => []
  | j :: l => Value.ofJson j :: Value.ofJsonItems l

/-- The values of an object's members. -/
def Value.ofJsonMembers : List (String × Json) → List (String × Value)
  | [] => []
  | (k, j) :: l => (k, Value.ofJson j) :: Value.ofJsonMembers l

end

mutual

/-- The tree that a value is written as. -/
def Value.toJson : Value → Json
  | .null => .null
  | .bool b => .bool b
  | .int n => .int n.toInt
  | .float x => .float x
  | .str s => .str s
  | .list l => .arr (Value.toJsonItems l)
  | .map l => .obj (Value.toJsonMembers l)

/-- The trees of a list's items. -/
def Value.toJsonItems : List Value → List Json
  | [] => []
  | v :: l => Value.toJson v :: Value.toJsonItems l

/-- The members of a mapping. -/
def Value.toJsonMembers : List (String × Value) → List (String × Json)
  | [] => []
  | (k, v) :: l => (k, Value.toJson v) :: Value.toJsonMembers l

end

/-- The object of a table, one member an entry. -/
def Table.toJson {α : Type} (f : α → Json) (t : Table α) : Json :=
  .obj (t.entries.map fun e => (e.1, f e.2))

/-- The array of some texts. -/
def Json.strings (l : List String) : Json := .arr (l.map .str)

end Provision
