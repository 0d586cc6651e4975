import Provision.Conversion.Error
import Provision.Schema.Basic
import Provision.Value.Scalar

/-!
# Handlers

A module's attributes are sorted into buckets, one for each state that the step is to bring about.
Most modules put all of them into their default state; a handler does otherwise. Handlers stand in a
table by module id, and `HandlerTable.build` runs the one that is there.
-/

namespace Provision

/-- Attributes by state. -/
abbrev Buckets := Table Attributes

/-- Sorts the attributes of a module into states. -/
abbrev Handler := Schema → Attributes → Except ConvertError Buckets

/-- The handlers of modules, by id. -/
abbrev HandlerTable := Table Handler

namespace Schema

/-- All attributes in the default state. -/
def defaultBuckets (s : Schema) (a : Attributes) : Buckets := .singleton s.defaultState a

/-- The error that the module's attributes cannot be sorted into states. -/
def fault (s : Schema) (cause : BuildFault) : ConvertError := .buildFailure s.id cause

end Schema

namespace Attributes

/-- Whether an attribute is there and truthy. -/
def isSet (a : Attributes) (key : String) : Bool := ((a.get? key).map Value.isTruthy).getD false

/-- The text of a text attribute. -/
def text? (a : Attributes) (key : String) : Option String := (a.get? key).bind Value.text?

/-- Makes a truthy attribute an integer. -/
def coerceInt (s : Schema) (a : Attributes) (key : String) (cause : Value → BuildFault) :
    Except ConvertError Attributes :=
  match (a.get? key).filter Value.isTruthy with
  | none => .ok a
  | some v =>
    match v.toInt? with
    | some n => .ok (a.insert key (.int n))
    | none => .error (s.fault (cause v))

end Attributes

namespace HandlerTable

/-- The states of a module's attributes; there has to be at least one. -/
def build (t : HandlerTable) (s : Schema) (a : Attributes) : Except ConvertError Buckets := do
  let buckets ← match t.get? s.id with
    | some handler => handler s a
    | none => .ok (s.defaultBuckets a)
  if buckets.isEmpty then .error (s.fault .noBucket) else .ok buckets

end HandlerTable

end Provision
