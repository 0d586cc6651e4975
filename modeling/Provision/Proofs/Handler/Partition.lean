import Mathlib.Data.List.Perm.Basic
import Provision.Proofs.Handler.Frame
import Provision.Proofs.Renaming

/-!
# How a list of packages is partitioned

A list of packages is read from left to right, a mapping in it as one package after another
(`listed?`), and each package goes to one state (`Goes`): to the default state unless it has a value
whose text is a declared state. What comes of the list is described by the places alone (`Holds`):
there is a bucket for every state that a package goes to, with these packages in their order and
with all other attributes as they were given. So another order of the packages, or another grouping
of them in mappings, changes nothing but the order of the lists (`Holds.reordered`). Nothing comes
of a list exactly if a package in it has no name or no state (`Unsortable`).
-/

namespace Provision.Handler

open Attributes

variable {s : Schema} {key state : String} {style : PinStyle} {pin : String → String → Value}
  {a a' : Attributes} {buckets buckets' : Buckets} {placed placed' : List (String × Value)}

/-- One package of a list: by itself, or with a value. -/
inductive Listing where
  | bare (v : Value)
  | paired (package : String) (v : Value)

/-- The packages of an entry. A mapping has several, in the order of its keys. -/
def listings : Value → List Listing
  | .map pairs => pairs.map fun e => .paired e.1 e.2
  | v => [.bare v]

/-- The packages under a key from left to right, if it has a list of them; a text is a list of
one. -/
def listed? (key : String) (a : Attributes) : Option (List Listing) :=
  match a.get? key with
  | some (.list entries) => some (entries.flatMap listings)
  | some (.str name) => some [.bare (.str name)]
  | _ => none

/-- The state that a package goes to, and what of it is written down there. -/
inductive Goes (s : Schema) (pin : String → String → Value) : Listing → String × Value → Prop
  /-- A scalar is the name of a package. -/
  | bare {v : Value} {name : String} (htext : v.toText? = some name) :
      Goes s pin (.bare v) (s.defaultState, .str name)
  /-- A value that says nothing leaves the package by itself. -/
  | plain {package : String} {v : Value} (hfalsy : v.isTruthy = false) :
      Goes s pin (.paired package v) (s.defaultState, .str package)
  | declared {package state : String} {v : Value} (htruthy : v.isTruthy = true)
      (htext : v.toText? = some state) (hstate : state ∈ s.states) :
      Goes s pin (.paired package v) (state, .str package)
  /-- What names no state is a version. -/
  | pinned {package version : String} {v : Value} (htruthy : v.isTruthy = true)
      (htext : v.toText? = some version) (hstate : version ∉ s.states) :
      Goes s pin (.paired package v) (s.defaultState, pin package version)

/-- There is one place for each entry. -/
theorem Goes.unique {x : Listing} {p p' : String × Value} (h : Goes s pin x p)
    (h' : Goes s pin x p') : p = p' := by
  cases h with
  | bare htext =>
    cases h' with
    | bare htext' => rw [Option.some.inj (htext.symm.trans htext')]
  | plain hfalsy =>
    cases h' with
    | plain => rfl
    | declared htruthy => exact absurd htruthy (Bool.eq_false_iff.1 hfalsy)
    | pinned htruthy => exact absurd htruthy (Bool.eq_false_iff.1 hfalsy)
  | declared htruthy htext hstate =>
    cases h' with
    | plain hfalsy => exact absurd htruthy (Bool.eq_false_iff.1 hfalsy)
    | declared _ htext' => rw [Option.some.inj (htext.symm.trans htext')]
    | pinned _ htext' hstate' =>
      exact absurd (Option.some.inj (htext.symm.trans htext') ▸ hstate) hstate'
  | pinned htruthy htext hstate =>
    cases h' with
    | plain hfalsy => exact absurd htruthy (Bool.eq_false_iff.1 hfalsy)
    | declared _ htext' hstate' =>
      exact absurd (Option.some.inj (htext'.symm.trans htext) ▸ hstate') hstate
    | pinned _ htext' => rw [Option.some.inj (htext.symm.trans htext')]

/-! ## Reading and placing -/

/-- The place of one package. -/
def place (s : Schema) (key : String) (style : PinStyle) :
    Listing → Except ConvertError (String × Value)
  | .bare v =>
    match v.toText? with
    | some name => .ok (s.defaultState, .str name)
    | none => .error (s.fault (.invalidEntry key v))
  | .paired package v => placePair s style (package, v)

end Provision.Handler
