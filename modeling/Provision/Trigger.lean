import Provision.Conversion.Context
import Provision.Document.Basic
import Provision.Registry.Basic
import Provision.Tag
import Provision.Value.Scalar

/-!
# Triggers

A module's triggers become documents that have to run after the step's own. Each triggered module
gets attributes from the step's parameters: a parameter as it is, or a template whose `$parameter`
words are replaced by the parameters' texts. A trigger without any attribute makes no document.
-/

namespace Provision

/-- A word of a template with its parameter put in, if it asks for one. -/
def replaceWord (params : Parameters) : List Char → Option (List Char)
  | '$' :: name => ((params.get? (String.ofList name)).bind Value.toText?).map String.toList
  | word => some word

/-- A template with its parameters put in and its words a space apart, if every parameter it asks
for has a text. -/
def fillTemplate (template : String) (params : Parameters) : Option String :=
  ((Text.words template.toList).mapM (replaceWord params)).map fun words =>
    String.ofList ([' '].intercalate words)

namespace TriggerAttribute

/-- The attribute's value: the parameter that its source names, or else its source as a template. A
parameter that is null gives none. -/
def value? (a : TriggerAttribute) (params : Parameters) : Option Value :=
  match params.get? a.source with
  | some v => if v.isNull then none else some v
  | none => if a.source.toList.contains '$' then (fillTemplate a.source params).map .str else none

/-- The key and the value, if there are both. -/
def entry? (a : TriggerAttribute) (params : Parameters) : Option (String × Value) :=
  if a.target = "" then none else (a.value? params).map (a.target, ·)

end TriggerAttribute

namespace Trigger

/-- What the triggered module gets. -/
def attributesFor (t : Trigger) (params : Parameters) : Attributes :=
  .ofList (t.attributes.filterMap (TriggerAttribute.entry? · params))

/-- The tag of a trigger's document. -/
def tag (module step state : String) : String :=
  makeTag module none (some step) (some "require_in") (some state)

/-- The tag and the document of a trigger, if its module can run on the platform and gets
anything. -/
def document? (r : Registry) (pm : PackageManager) (step : String) (params : Parameters)
    (t : Trigger) : Option (String × Document) := do
  let s ← r.get? t.module
  guard (s.runsWith pm)
  let attributes := t.attributesFor params
  guard (!attributes.isEmpty)
  let document : Document :=
    { resourceType := s.resourceType, state := s.defaultState, attributes, scope := some .shared }
  return (tag t.module step s.defaultState, document)

end Trigger

/-- The documents of a module's triggers, by tag. -/
def Schema.triggerDocuments (s : Schema) (r : Registry) (pm : PackageManager) (step : String)
    (params : Parameters) : DocumentMap :=
  .ofList (s.triggers.filterMap (Trigger.document? r pm step params))

end Provision
