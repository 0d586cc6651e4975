import Provision.Handler.Basic

/-!
# Package lists

A package module gets a list of packages and sorts them into states. An entry by itself is a package
in the default state. An entry with a value is a package in the state that the value names, or else,
in the default state, a package pinned to the version that the value names. Every bucket gets its
part of the list, in order, and all other attributes.
-/

namespace Provision.Handler

/-- How a package and its version are written in a list. -/
inductive PinStyle where
  | pair
  /-- As one text with a separator. -/
  | joined (separator : String)
deriving DecidableEq

/-- A package pinned to a version. -/
def PinStyle.pin (style : PinStyle) (package version : String) : Value :=
  match style with
  | .pair => .pair package (.str version)
  | .joined separator => .str (package ++ separator ++ version)

/-- The state and the list item of a package with a value. -/
def placePair (s : Schema) (style : PinStyle) (e : String × Value) :
    Except ConvertError (String × Value) :=
  if e.2.isTruthy then
    match e.2.toText? with
    | none => .error (s.fault (.nonScalarState e.1 e.2))
    | some text =>
      if s.hasState text then .ok (text, .str e.1) else .ok (s.defaultState, style.pin e.1 text)
  else .ok (s.defaultState, .str e.1)

/-- The states and list items of one entry. -/
def placeEntry (s : Schema) (key : String) (style : PinStyle) :
    Value → Except ConvertError (List (String × Value))
  | .map pairs => pairs.mapM (placePair s style)
  | v =>
    match v.toText? with
    | some name => .ok [(s.defaultState, .str name)]
    | none => .error (s.fault (.invalidEntry key v))

/-- The entries of the package attribute; a text is a list of one. -/
def packageEntries (s : Schema) (key : String) (a : Attributes) :
    Except ConvertError (List Value) :=
  match a.get? key with
  | some (.list l) => .ok l
  | some (.str name) => .ok [.str name]
  | some v => .error (s.fault (.notAPackageList key v))
  | none => .error (s.fault (.noPackages key))

/-- Adds an item to the end of a state's list. -/
def addItem (lists : Table (List Value)) (placed : String × Value) : Table (List Value) :=
  lists.insert placed.1 ((lists.get? placed.1).getD [] ++ [placed.2])

/-- The lists of all states, each in the order of the items. -/
def groupItems (placed : List (String × Value)) : Table (List Value) := placed.foldl addItem ∅

/-- Sorts the packages under a key into states. -/
def packages (key : String) (style : PinStyle) : Handler := fun s a => do
  let entries ← packageEntries s key a
  let placed ← entries.mapM (placeEntry s key style)
  return (groupItems placed.flatten).map fun items => (a.erase key).insert key (.list items)

/-- Packages of the host's package manager; a version goes beside its package. -/
def systemPackages : Handler := packages "pkgs" .pair

/-- Packages of npm; a version follows its package behind an at sign. -/
def npmPackages : Handler := packages "names" (.joined "@")

/-- Packages of pip and gem; a version follows its package behind two equals signs. -/
def pinnedPackages : Handler := packages "names" (.joined "==")

end Provision.Handler
