import Provision.Handler.Basic

/-!
# Paths, commands, accounts, mounts and volumes

The handlers of a host's own parts. A path that is to be absent becomes a document with nothing but
its name; any other gets an integer mode, an owner and, for a recursive directory, the list of what
to apply below it.
-/

namespace Provision.Handler

/-- The mode as an integer. -/
def withMode (s : Schema) (a : Attributes) : Except ConvertError Attributes :=
  Attributes.coerceInt s a "mode" .invalidMode

/-- What a recursive directory applies below itself: those of user, group and mode that are set. -/
def withRecurse (a : Attributes) : Attributes :=
  if Attributes.isSet a "recurse" then
    a.insert "recurse" (.strings (["user", "group", "mode"].filter (Attributes.isSet a)))
  else a.erase "recurse"

/-- The owner, who is the superuser if none is given. -/
def withOwner (a : Attributes) : Attributes :=
  if a.contains "user" then a else a.insert "user" (.str "root")

/-- A file or a link. -/
def path : Handler := fun s a =>
  let rest := a.erase "absent"
  if Attributes.isSet a "absent" then
    match rest.get? "name" with
    | some name => .ok (.singleton "absent" (.singleton "name" name))
    | none => .error (s.fault .absentWithoutName)
  else do
    let rest ← withMode s rest
    return s.defaultBuckets (withOwner (withRecurse rest))

/-- A directory, whose parents are made with it. -/
def directory : Handler := fun s a => path s (a.insert "makedirs" (.bool true))

/-- The guard that a path exists. -/
def withGuard (a : Attributes) (key : String) : Attributes :=
  match (a.get? key).bind Value.toText? with
  | some path => a.insert key (.str ("[ -e " ++ path ++ " ]"))
  | none => a

/-- A command; its guards are given as paths. -/
def command : Handler := fun s a => do
  let a ← Attributes.coerceInt s (withGuard (withGuard a "onlyif") "unless") "timeout"
    (.notANumber "timeout")
  return s.defaultBuckets a

/-- A user or a group. -/
def account : Handler := fun s a => do
  let a ← Attributes.coerceInt s a "uid" (.notANumber "uid")
  let a ← Attributes.coerceInt s a "gid" (.notANumber "gid")
  let rest := a.erase "nologin"
  return s.defaultBuckets
    (if Attributes.isSet a "nologin" then rest.insert "shell" (.str "/sbin/nologin") else rest)

/-- An attribute as an integer, zero for what is none. -/
def asInt (a : Attributes) (key : String) : Attributes :=
  match a.get? key with
  | some v => a.insert key (.int (v.toInt?.getD 0))
  | none => a

/-- A mount point. -/
def mount : Handler := fun s a => .ok (s.defaultBuckets (asInt (asInt a "dump") "pass_num"))

/-- A list of devices as one text with commas. What has no text is left out. -/
def joinDevices (a : Attributes) (key : String) : Attributes :=
  match a.get? key with
  | some (.list items) => a.insert key (.str (",".intercalate (items.filterMap Value.toText?)))
  | _ => a

/-- A volume group or a logical volume. -/
def volume : Handler := fun s a =>
  .ok (s.defaultBuckets (joinDevices (joinDevices a "devices") "pv"))

end Provision.Handler
