/-!
# Stages of a conversion

A conversion passes through six stages in a fixed order and may fail at any of them.
-/

namespace Provision

/-- A stage of a conversion. -/
inductive Stage where
  /-- Module, parameters and platform are checked. -/
  | validating
  /-- Parameters are renamed to backend attributes. -/
  | mapping
  /-- Attributes are sorted into states. -/
  | building
  /-- Prerequisite and trigger documents are made. -/
  | resolvingDeps
  /-- Documents get their tags. -/
  | tagging
  /-- Version pins are split out and the documents are ready. -/
  | expanded
  /-- The conversion has failed. -/
  | failed
deriving DecidableEq, Repr

namespace Stage

/-- All stages, in their order. -/
def all : List Stage :=
  [.validating, .mapping, .building, .resolvingDeps, .tagging, .expanded, .failed]

/-- The number of a stage. -/
def number : Stage → Nat
  | .validating => 0
  | .mapping => 1
  | .building => 2
  | .resolvingDeps => 3
  | .tagging => 4
  | .expanded => 5
  | .failed => 255

/-- What goes on in a stage. -/
def description : Stage → String
  | .validating => "validating input"
  | .mapping => "mapping attributes"
  | .building => "building states"
  | .resolvingDeps => "resolving dependencies"
  | .tagging => "tagging documents"
  | .expanded => "expanded"
  | .failed => "failed"

/-- The stage that follows. -/
def next? : Stage → Option Stage
  | .validating => some .mapping
  | .mapping => some .building
  | .building => some .resolvingDeps
  | .resolvingDeps => some .tagging
  | .tagging => some .expanded
  | .expanded | .failed => none

/-- Whether the conversion is over. -/
def isTerminal (s : Stage) : Bool := s.next?.isNone

end Stage

end Provision
