import Provision.Named

/-!
# Platforms

A platform is a host's operating system. It determines the package manager, and a package manager
has one module that installs packages through it.
-/

namespace Provision

/-- A package manager of a host. -/
inductive PackageManager where
  /-- The manager of Debian and its kin. -/
  | apt
  /-- The manager of Red Hat and its kin. -/
  | yum
deriving DecidableEq, Repr

instance : Named PackageManager where
  all := [.apt, .yum]
  name
    | .apt => "apt"
    | .yum => "yum"

/-- The id of the module that installs packages through a manager. -/
def PackageManager.packageModule : PackageManager → String
  | .apt => "linux.apt.package"
  | .yum => "linux.yum.package"

/-- The manager whose package module has an id. -/
def PackageManager.ofPackageModule? (id : String) : Option PackageManager :=
  Named.all.find? fun m => packageModule m == id

/-- An operating system that steps can be converted for. -/
inductive Platform where
  | centos
  | redhat
  | debian
  | ubuntu
  | amazon
deriving DecidableEq, Repr

instance : Named Platform where
  all := [.centos, .redhat, .debian, .ubuntu, .amazon]
  name
    | .centos => "centos"
    | .redhat => "redhat"
    | .debian => "debian"
    | .ubuntu => "ubuntu"
    | .amazon => "amazon"

/-- The package manager of a platform. -/
def Platform.packageManager : Platform → PackageManager
  | .debian | .ubuntu => .apt
  | .centos | .redhat | .amazon => .yum

end Provision
