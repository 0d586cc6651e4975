import Provision.Named

/-!
# Resources

The kinds of resource that a document can describe, and the kinds of key that grant access over ssh.
-/

namespace Provision

/-- The kind of resource that a document describes. -/
inductive ResourceType where
  /-- A package of the host's package manager. -/
  | pkg
  | gem
  | npm
  | pip
  /-- A file, directory or link. -/
  | file
  | cmd
  | git
  | svn
  | hg
  | supervisord
  | service
  | cron
  | user
  | group
  | mount
  | selinux
  | timezone
  /-- A logical volume or a volume group. -/
  | lvm
  | virtualenv
  | sshAuth
  | sshKnownHosts
deriving DecidableEq, Repr

namespace ResourceType

instance : Named ResourceType where
  all :=
    [.pkg, .gem, .npm, .pip, .file, .cmd, .git, .svn, .hg, .supervisord, .service, .cron, .user,
    .group, .mount, .selinux, .timezone, .lvm, .virtualenv, .sshAuth, .sshKnownHosts]
  name
    | .pkg => "pkg"
    | .gem => "gem"
    | .npm => "npm"
    | .pip => "pip"
    | .file => "file"
    | .cmd => "cmd"
    | .git => "git"
    | .svn => "svn"
    | .hg => "hg"
    | .supervisord => "supervisord"
    | .service => "service"
    | .cron => "cron"
    | .user => "user"
    | .group => "group"
    | .mount => "mount"
    | .selinux => "selinux"
    | .timezone => "timezone"
    | .lvm => "lvm"
    | .virtualenv => "virtualenv"
    | .sshAuth => "ssh_auth"
    | .sshKnownHosts => "ssh_known_hosts"

/-- Whether a document of this type names packages together with versions. -/
def isVersionAware : ResourceType → Bool
  | .gem | .pip => true
  | _ => false

/-- Whether a single package of this type has its version apart from its name. -/
def splitsVersion : ResourceType → Bool
  | .gem => true
  | _ => false

end ResourceType

/-- The kind of a public key. -/
inductive SshKeyType where
  | rsa
  | ecdsa
  | dss
deriving DecidableEq, Repr

instance : Named SshKeyType where
  all := [.rsa, .ecdsa, .dss]
  name
    | .rsa => "ssh-rsa"
    | .ecdsa => "ecdsa"
    | .dss => "ssh-dss"

/-- The kind of key with a name; any other text counts as an RSA key. -/
def SshKeyType.ofText (s : String) : SshKeyType := (Named.ofName? s).getD .rsa

end Provision
