import Provision.Json.Reader
import Provision.Named

/-!
# Reading typed data

Schemas, plans and settings are records: objects of known members. Members that are not known are
skipped, and with them all that has no value in them; a known one may stand only once, and a missing
one needs a default. An array in place of an object gives the members by their position.
`Json.Fault` tells why a source is not what was wanted.
-/

namespace Provision.Json

/-- Why a text or a source does not give what it should. -/
inductive Fault where
  /-- The text is not JSON. -/
  | malformed
  /-- A part that is wanted has no value. -/
  | invalid
  /-- The source has another shape. -/
  | expected (what : String)
  | missing (member : String)
  | repeated (member : String)
deriving DecidableEq

/-- The wording of a fault. -/
def Fault.message : Fault → String
  | .malformed => "malformed JSON text"
  | .invalid => "a number, string or container without a value"
  | .expected what => s!"expected {what}"
  | .missing member => s!"missing member {member}"
  | .repeated member => s!"repeated member {member}"

/-- A way to read a source as data of a type. -/
abbrev Reading (α : Type) := Source → Except Fault α

/-- Reads the source in a text. -/
def readText {α : Type} (read : Reading α) (text : String) : Except Fault α :=
  match Source.ofText? text with
  | some s => read s
  | none => .error .malformed

/-- A string. -/
def text : Reading String
  | .str s => .ok s
  | _ => .error (.expected "a string")

/-- A truth literal. -/
def flag : Reading Bool
  | .bool b => .ok b
  | _ => .error (.expected "true or false")

/-- Any value. -/
def value : Reading Value := fun s =>
  match s.json? with
  | some j => .ok (.ofJson j)
  | none => .error .invalid

/-- An array, item by item. -/
def listOf {α : Type} (read : Reading α) : Reading (List α)
  | .arr l => l.mapM read
  | _ => .error (.expected "an array")

/-- The name of a member. -/
def nameOf : Option String → Except Fault String
  | some name => .ok name
  | none => .error .invalid

/-- An object, member by member. Of several members with one name the last counts, but all are
read. -/
def tableOf {α : Type} (read : Reading α) : Reading (Table α)
  | .obj l => do
    let entries ← l.mapM fun (k, s) => do return (← nameOf k, ← read s)
    return .ofList entries
  | _ => .error (.expected "an object")

/-- A mapping of values. -/
def valueTable : Reading (Table Value) := tableOf value

/-- One of some named alternatives: its name, alone or as the one member of an object with null. -/
def named (α : Type) [Named α] : Reading α
  | .str s | .obj [(some s, .null)] =>
    match Named.ofName? s with
    | some a => .ok a
    | none => .error (.expected "a known name")
  | _ => .error (.expected "a name")

/-- What the reading gives, or nothing for null. -/
def nullable {α : Type} (read : Reading α) : Reading (Option α)
  | .null => .ok none
  | s => (read s).map some

/-- The first name that occurs earlier among the names of members. -/
def repeated? : List (String × Source) → Option String
  | [] => none
  | (k, _) :: rest => if rest.any (·.1 == k) then some k else repeated? rest

/-- The members of a record whose members have the given names. -/
def record (names : List String) : Reading (Table Source)
  | .obj l => do
    let members ← l.mapM fun (k, s) => do return (← nameOf k, s)
    let known := members.filter fun m => names.contains m.1
    match repeated? known with
    | some name => .error (.repeated name)
    | none => .ok (.ofList known)
  | .arr l =>
    if l.length ≤ names.length then .ok (.ofList (names.zip l))
    else .error (.expected s!"at most {names.length} members")
  | _ => .error (.expected "an object")

/-- A member that has to be there. -/
def required {α : Type} (members : Table Source) (name : String) (read : Reading α) :
    Except Fault α :=
  match members.get? name with
  | some s => read s
  | none => .error (.missing name)

/-- A member with a default. -/
def optional {α : Type} (members : Table Source) (name : String) (read : Reading α) (default : α) :
    Except Fault α :=
  match members.get? name with
  | some s => read s
  | none => .ok default

end Provision.Json
