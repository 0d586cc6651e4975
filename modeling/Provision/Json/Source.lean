import Provision.Json.Basic
import Provision.Json.Numeral

/-!
# What stands in a JSON text

Reading a text has two sides. The grammar tells numbers, strings, arrays and objects apart, and it
is asked of the whole text. Whether a part has a value is asked only of the parts that are looked
at: a number may be out of range, a string may hold half of a surrogate pair, and a container may be
nested too deep. A `Source` is a text that follows the grammar, with `Source.invalid` in place of
what has no value, and `Source.json?` is the tree of a source that has one throughout.
-/

namespace Provision.Json

/-- A text that follows the grammar. -/
inductive Source where
  /-- A part without a value. -/
  | invalid
  | null
  | bool (b : Bool)
  /-- A number that stands for an integer. -/
  | int (n : Int)
  /-- Any other number in range. -/
  | float (x : Binary64)
  | str (s : String)
  | arr (items : List Source)
  /-- An object, with its members as written; a name that is no string has no value. -/
  | obj (members : List (Option String × Source))

namespace Source

/-- What a numeral stands for. -/
def ofNumeral (n : Numeral) : Source :=
  match n.int? with
  | some i => .int i
  | none =>
    match n.float? with
    | some x => .float x
    | none => .invalid

/-- A string, if it is one. -/
def ofString? : Option String → Source
  | some s => .str s
  | none => .invalid

mutual

/-- The tree of a source in which every part has a value. -/
def json? : Source → Option Json
  | .invalid => none
  | .null => some .null
  | .bool b => some (.bool b)
  | .int n => some (.int n)
  | .float x => some (.float x)
  | .str s => some (.str s)
  | .arr l => (jsonItems? l).map .arr
  | .obj l => (jsonMembers? l).map .obj

/-- The trees of an array's items. -/
def jsonItems? : List Source → Option (List Json)
  | [] => some []
  | s :: l => do return (← json? s) :: (← jsonItems? l)

/-- The trees of an object's members. -/
def jsonMembers? : List (Option String × Source) → Option (List (String × Json))
  | [] => some []
  | (k, s) :: l => do return (← k, ← json? s) :: (← jsonMembers? l)

end

mutual

/-- The source of a tree. -/
def ofJson : Json → Source
  | .null => .null
  | .bool b => .bool b
  | .int n => .int n
  | .float x => .float x
  | .str s => .str s
  | .arr l => .arr (ofJsonItems l)
  | .obj l => .obj (ofJsonMembers l)

/-- The sources of an array's items. -/
def ofJsonItems : List Json → List Source
  | [] => []
  | j :: l => ofJson j :: ofJsonItems l

/-- The sources of an object's members. -/
def ofJsonMembers : List (String × Json) → List (Option String × Source)
  | [] => []
  | (k, j) :: l => (some k, ofJson j) :: ofJsonMembers l

end

mutual

/-- A tree is what its source stands for. -/
theorem json?_ofJson (j : Json) : (ofJson j).json? = some j := by
  cases j with
  | null | bool | int | float | str => rfl
  | arr l => simp [ofJson, json?, jsonItems?_ofJsonItems l]
  | obj l => simp [ofJson, json?, jsonMembers?_ofJsonMembers l]

theorem jsonItems?_ofJsonItems (l : List Json) : jsonItems? (ofJsonItems l) = some l := by
  cases l with
  | nil => rfl
  | cons j l => simp [ofJsonItems, jsonItems?, json?_ofJson j, jsonItems?_ofJsonItems l]

theorem jsonMembers?_ofJsonMembers (l : List (String × Json)) :
    jsonMembers? (ofJsonMembers l) = some l := by
  match l with
  | [] => rfl
  | (k, j) :: l =>
    simp [ofJsonMembers, jsonMembers?, json?_ofJson j, jsonMembers?_ofJsonMembers l]

end

end Source

end Provision.Json
