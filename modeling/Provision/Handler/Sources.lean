import Provision.Handler.Basic
import Provision.Text.Blank

/-!
# Sources and keys

Source checkouts, package repositories, gem sources and ssh keys.
-/

namespace Provision.Handler

/-- The path without slashes at its end, unless it consists of slashes. -/
def trimSlashes (path : String) : String :=
  let trimmed := (path.toList.reverse.dropWhile (· == '/')).reverse
  if trimmed.isEmpty then path else String.ofList trimmed

/-- The target directory of a checkout without slashes at its end. -/
def trimTarget (a : Attributes) : Attributes :=
  match Attributes.text? a "target" with
  | some path => a.insert "target" (.str (trimSlashes path))
  | none => a

/-- Git and Mercurial take a branch as the revision; Subversion has it in the address. -/
def branchAsRevision (s : Schema) (a : Attributes) : Attributes :=
  match a.get? "branch" with
  | none => a
  | some branch =>
    if s.resourceType = .git ∨ s.resourceType = .hg then (a.erase "branch").insert "rev" branch
    else a.erase "branch"

/-- A forced git checkout also discards local changes. -/
def forceCheckout (s : Schema) (a : Attributes) : Attributes :=
  if s.resourceType = .git ∧ Attributes.isSet a "force" then
    a.insert "force_checkout" (.bool true)
  else a

/-- A source checkout. -/
def sourceControl : Handler := fun s a =>
  .ok (s.defaultBuckets (forceCheckout s (branchAsRevision s (trimTarget a))))

/-- The directory and the extension of a package manager's repository files. -/
def repositoryPlace : PackageManager → String × String
  | .apt => ("/etc/apt/sources.list.d/", ".list")
  | .yum => ("/etc/yum.repos.d/", ".repo")

/-- The path of a repository file, with directory and extension added where they are missing. -/
def repositoryPath (pm : PackageManager) (name : String) : String :=
  let (dir, extension) := repositoryPlace pm
  let file := if extension.toList.isSuffixOf name.toList then name else name ++ extension
  if dir.toList.isPrefixOf file.toList then file else dir ++ file

/-- A repository file of the module's package manager. -/
def repositoryFile : Handler := fun s a =>
  match s.packageManager with
  | none => .error (s.fault .unboundRepository)
  | some pm =>
    match Attributes.text? a "name" with
    | some name => .ok (s.defaultBuckets (a.insert "name" (.str (repositoryPath pm name))))
    | none => .ok (s.defaultBuckets a)

/-- A gem source, which is added by a command. -/
def gemSource : Handler := fun s a =>
  match ((a.get? "name").bind Value.toText?).filter (· ≠ "") with
  | none => .error (s.fault .missingSource)
  | some url =>
    let a := a.insert "name" (.str ("gem source --add " ++ url))
    let a := a.insert "shell" (.str "/bin/bash")
    let a := a.insert "user" (.str "root")
    .ok (s.defaultBuckets (a.insert "group" (.str "root")))

/-- The keys in the content of a key file: its lines, blank ones left out. -/
def keyLines (content : String) : List String :=
  ((Text.lines content.toList).filter (!Text.isBlankText ·)).map String.ofList

/-- An authorized key or a known host. Authorized keys given as content stand for the name. -/
def sshKey : Handler := fun s a =>
  let a := match a.get? "enc" with
    | some enc => a.insert "enc" (.str (Named.name (SshKeyType.ofText (enc.text?.getD ""))))
    | none => a
  match s.resourceType, Attributes.text? a "content" with
  | .sshAuth, some content =>
    .ok (s.defaultBuckets ((a.insert "names" (.strings (keyLines content))).erase "name"))
  | _, _ => .ok (s.defaultBuckets a)

end Provision.Handler
