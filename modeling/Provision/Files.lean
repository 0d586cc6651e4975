import Provision.Table.Basic

/-!
# Files

What a run can learn from the file system: the text of a file, or why there is none. A run gets this
as a value, so that its outcome is a function of its arguments and the files. The kind of what is
under a path, be it a file, a directory or a device, is not told apart from what reading it gives
(`Files.isFile`). `Files.ofTable` is a directory that holds just the files of a table. A path is
walked name by name, and the first name that cannot be passed tells the fault.
-/

namespace Provision

/-- Why a file gives no text. -/
inductive FileFault where
  | notFound
  /-- A file is used as a directory. -/
  | notADirectory
  | isADirectory
  /-- The path or a name in it has too many bytes. -/
  | nameTooLong
  | notText
  | other (reason : String)
deriving DecidableEq

/-- The wording of a fault. -/
def FileFault.message : FileFault → String
  | .notFound => "No such file or directory (os error 2)"
  | .notADirectory => "Not a directory (os error 20)"
  | .isADirectory => "Is a directory (os error 21)"
  | .nameTooLong => "File name too long (os error 36)"
  | .notText => "stream did not contain valid UTF-8"
  | .other reason => reason

/-- The files as a run sees them. -/
structure Files where
  /-- The text under a path. -/
  read : String → Except FileFault String

namespace Files

/-- Whether there is a file under a path, be it text or not. What is under a path is known only by
reading it: a file that may not be read counts as none, and a device or a pipe that gives a text
counts as one. -/
def isFile (f : Files) (path : String) : Bool :=
  match f.read path with
  | .ok _ | .error .notText => true
  | .error _ => false

/-- The names along a path. -/
def segments (path : String) : List String := (path.toList.splitOnP (· == '/')).map String.ofList

/-- How many bytes a name may have. -/
def maxNameBytes : Nat := 255

/-- How many bytes a path may have. -/
def maxPathBytes : Nat := 4095

/-- Where a path has led to. -/
inductive Place where
  /-- A directory above the one that paths start from. -/
  | above
  /-- What the names lead to from the directory that paths start from. -/
  | below (names : List String)

namespace Place

/-- The place that holds a place; the root of all holds itself. -/
def parent : Place → Place
  | .above | .below [] => .above
  | .below names => .below names.dropLast

/-- The name of a file there. -/
def fileName : Place → String
  | .above => ""
  | .below names => "/".intercalate names

/-- Whether a place is a directory among some files. -/
def isDirectory (t : Table String) : Place → Bool
  | .above | .below [] => true
  | .below names => t.keys.any fun name =>
    let parts := segments name
    names.isPrefixOf parts && names.length < parts.length

/-- Follows one name from a directory. -/
def follow (place : Place) (name : String) : Except FileFault Place :=
  if name = "" ∨ name = "." then .ok place
  else if name = ".." then .ok place.parent
  else if maxNameBytes < name.utf8ByteSize then .error .nameTooLong
  else
    match place with
    | .above => .error .notFound
    | .below names => .ok (.below (names ++ [name]))

/-- Walks along names. Only a directory can be walked through. -/
def walk (t : Table String) (place : Place) : List String → Except FileFault Place
  | [] => .ok place
  | name :: rest =>
    if place.isDirectory t then do walk t (← place.follow name) rest
    else .error (if t.contains place.fileName then .notADirectory else .notFound)

end Place

/-- The place that a path leads to. -/
def placeOf (t : Table String) (path : String) : Except FileFault Place :=
  if path = "" then .error .notFound
  else if maxPathBytes < path.utf8ByteSize then .error .nameTooLong
  else Place.walk t (if path.startsWith "/" then .above else .below []) (segments path)

/-- The files of a table, in the directory that paths start from. -/
def ofTable (t : Table String) : Files where
  read path := do
    let place ← placeOf t path
    if place.isDirectory t then .error .isADirectory
    else match t.get? place.fileName with
      | some text => .ok text
      | none => .error .notFound

end Files

end Provision
