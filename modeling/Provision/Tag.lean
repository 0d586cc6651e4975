/-!
# Tags

A document's tag is made of the step, the module and the state it came from, with underscores
between them and in front. A component's uid goes to the front and a name behind the module; what is
missing or empty is left out.
-/

namespace Provision

/-- A module's id with underscores for dots. -/
def moduleTag (module : String) : String :=
  module.map fun c => if c = '.' then '_' else c

/-- The parts of a tag that say something. -/
def givenParts (parts : List (Option String)) : List String :=
  parts.filterMap fun part? => part?.filter (· ≠ "")

/-- The tag of a module's document. -/
def makeTag (module : String) (uid step name state : Option String) : String :=
  "_" ++ "_".intercalate (givenParts [uid, step] ++ moduleTag module :: givenParts [name, state])

/-- The tag of a document that a step's module makes for a state. -/
def stepTag (module step state : String) : String :=
  makeTag module none (some step) none (some state)

end Provision
