import Provision.Conversion.Error
import Provision.Platform

/-!
# The context of a conversion

Every conversion owns a context: the platform, the stage it is in, where it failed if it did, and
how deep it stands in prerequisites. Stages move forward one at a time, and only at depth zero; a
nested conversion leaves the stage of the outer one alone. `ConvertM` threads the context through a
conversion and keeps it when the conversion fails.
-/

namespace Provision

/-- How deep prerequisites may be nested. -/
def maxDepth : Nat := 16

/-- The state of one conversion. -/
structure Context where
  platform : Platform
  stage : Stage := .validating
  /-- The stage at which the conversion failed. -/
  failedAt : Option Stage := none
  /-- The number of prerequisites being converted inside each other. -/
  depth : Nat := 0
deriving DecidableEq

/-- A step of a conversion: it may fail, and the context survives a failure. -/
abbrev ConvertM := ExceptT ConvertError (StateM Context)

namespace Context

/-- The context at the beginning of a conversion. -/
def start (platform : Platform) : Context := { platform }

/-- The package manager of the platform. -/
def packageManager (c : Context) : PackageManager := c.platform.packageManager

/-- The id of the platform's package module. -/
def packageModule (c : Context) : String := c.packageManager.packageModule

/-- Marks the conversion as failed where it stands; only the first failure counts. -/
def fail (c : Context) : Context :=
  if c.stage = .failed then c else { c with stage := .failed, failedAt := some c.stage }

/-- Comes back from a prerequisite. -/
def ascend (c : Context) : Context := { c with depth := c.depth - 1 }

/-- What can be done to a context. -/
inductive Move where
  /-- To a stage, which has to be the next one. Below the top level nothing moves. -/
  | enter (stage : Stage)
  | fail
  /-- One prerequisite deeper, as long as there is room. -/
  | descend
  | ascend
deriving DecidableEq

/-- Makes a move: its answer, and the context after it. -/
def attempt (c : Context) : Move → Except ConvertError Unit × Context
  | .enter stage =>
    if 0 < c.depth then (.ok (), c)
    else if c.stage.next? = some stage then (.ok (), { c with stage })
    else (.error (.internal c.stage (.invalidTransition c.stage stage)), c)
  | .fail => (.ok (), c.fail)
  | .descend =>
    if maxDepth ≤ c.depth then (.error (.internal c.stage (.tooDeep maxDepth)), c)
    else (.ok (), { c with depth := c.depth + 1 })
  | .ascend => (.ok (), c.ascend)

/-- The context of a prerequisite, if there is room for one. -/
def descend (c : Context) : Except ConvertError Context :=
  let (answer, c') := c.attempt .descend
  answer.map fun _ => c'

/-- The context after several attempts. -/
def attemptAll (c : Context) (moves : List Move) : Context :=
  moves.foldl (fun c m => (c.attempt m).2) c

end Context

namespace ConvertM

/-- Makes a move, and fails if it is refused. -/
def move (m : Context.Move) : ConvertM Unit := ExceptT.mk fun c => c.attempt m

/-- Enters a stage. -/
def enter (stage : Stage) : ConvertM Unit := move (.enter stage)

/-- Runs a conversion one prerequisite deeper, and comes back also when it fails. -/
def nested {α : Type} (act : ConvertM α) : ConvertM α := do
  move .descend
  ExceptT.mk fun c => let (result, c') := act.run c; (result, c'.ascend)

/-- Refuses to go any deeper. -/
def refuse {α : Type} : ConvertM α :=
  ExceptT.mk fun c => (.error (.internal c.stage (.tooDeep maxDepth)), c)

/-- A step that does not look at the context. -/
def ofExcept {α : Type} (r : Except ConvertError α) : ConvertM α := ExceptT.mk fun c => (r, c)

end ConvertM

end Provision
