import Provision.Conversion.Basic
import Provision.Document.Json
import Provision.Json.Record

/-!
# Plans

A plan is what one host gets: its platform and, for each component, an ordered list of steps. Every
step is converted by itself, so a step that fails hides no other one.
-/

namespace Provision

/-- A step of a plan. -/
structure PlanStep where
  id : String
  module : String
  parameter : Value
deriving DecidableEq

/-- The steps of a host, by component. -/
structure Plan where
  /-- The platform's name. -/
  osType : String
  /-- The steps of each component, in their order. -/
  components : Table (List PlanStep)
deriving DecidableEq

/-- Why a plan cannot be loaded. -/
inductive PlanError where
  /-- The text is not a plan. -/
  | malformed (fault : Json.Fault)
  /-- The platform is blank. -/
  | noPlatform
  /-- The file cannot be read. -/
  | unreadable
deriving DecidableEq

/-- The wording of a plan error. -/
def PlanError.message : PlanError → String
  | .malformed fault => s!"JSON error: {fault.message}"
  | .noPlatform => "plan has no os_type"
  | .unreadable => "IO error"

namespace PlanStep

/-- Reads a step; its parameters may be left out. -/
def ofSource : Json.Reading PlanStep := fun s => do
  let members ← Json.record ["id", "module", "parameter"] s
  let id ← Json.required members "id" Json.text
  let module ← Json.required members "module" Json.text
  let parameter ← Json.optional members "parameter" Json.value .null
  return { id, module, parameter }

/-- A step as an object. -/
def toJson (s : PlanStep) : Json :=
  .obj [("id", .str s.id), ("module", .str s.module), ("parameter", s.parameter.toJson)]

end PlanStep

namespace Plan

/-- Reads the steps of a component. -/
def componentOfSource : Json.Reading (List PlanStep) := fun s => do
  let members ← Json.record ["state"] s
  Json.optional members "state" (Json.listOf PlanStep.ofSource) []

/-- Reads a plan, whatever its platform. -/
def ofSource : Json.Reading Plan := fun s => do
  let members ← Json.record ["os_type", "component"] s
  let osType ← Json.required members "os_type" Json.text
  let components ← Json.optional members "component" (Json.tableOf componentOfSource) ∅
  return { osType, components }

/-- Reads the text of a plan, whose platform must not be blank. -/
def ofText (text : String) : Except PlanError Plan :=
  match Json.readText ofSource text with
  | .error fault => .error (.malformed fault)
  | .ok plan => if Text.isBlankText plan.osType.toList then .error .noPlatform else .ok plan

/-- A plan as an object. -/
def toJson (p : Plan) : Json :=
  .obj [("os_type", .str p.osType),
    ("component", p.components.toJson fun steps =>
      .obj [("state", .arr (steps.map PlanStep.toJson))])]

/-- All steps with the component they belong to, by component and then in their order. -/
def steps (p : Plan) : List (String × PlanStep) :=
  p.components.entries.flatMap fun (uid, steps) => steps.map (uid, ·)

/-- The number of steps. -/
def stepCount (p : Plan) : Nat := p.components.values.flatten.length

end Plan

/-- What converting a step comes to. -/
inductive StepResult where
  /-- The step gave documents. -/
  | converted (documents : List DocumentMap)
  /-- The step failed; of the error its kind and its wording are kept. -/
  | failed (kind : ErrorKind) (message : String)
deriving DecidableEq

namespace StepResult

/-- What is kept of a conversion. -/
def ofExcept : Except ConvertError (List DocumentMap) → StepResult
  | .ok documents => .converted documents
  | .error e => .failed e.kind e.message

/-- Whether the step gave documents. -/
def isConverted : StepResult → Bool
  | .converted _ => true
  | .failed .. => false

/-- The members that tell a result. -/
def toMembers : StepResult → List (String × Json)
  | .converted documents =>
    [("status", .str "converted"), ("documents", DocumentMap.listToJson documents)]
  | .failed kind message =>
    [("status", .str "failed"), ("kind", .str (Named.name kind)), ("message", .str message)]

end StepResult

/-- What became of a step. -/
structure Outcome where
  uid : String
  step : String
  module : String
  result : StepResult
deriving DecidableEq

namespace Outcome

/-- Whether the step gave documents. -/
def isConverted (o : Outcome) : Bool := o.result.isConverted

/-- An outcome as an object. -/
def toJson (o : Outcome) : Json :=
  .obj <| [("uid", .str o.uid), ("step", .str o.step), ("module", .str o.module)] ++
    o.result.toMembers

end Outcome

namespace Converter

/-- Converts one step of a plan. -/
def convertStep (c : Converter) (osType uid : String) (s : PlanStep) : Outcome where
  uid := uid
  step := s.id
  module := s.module
  result := .ofExcept (c.convertValue s.id s.module s.parameter osType)

/-- Converts every step of a plan. -/
def convertPlan (c : Converter) (p : Plan) : List Outcome :=
  p.steps.map fun (uid, s) => c.convertStep p.osType uid s

end Converter

end Provision
