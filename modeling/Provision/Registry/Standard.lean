import Provision.Registry.Basic

/-!
# The standard modules

The modules that are known without a registry file: packages, repositories, source checkouts, files,
commands, services, accounts, mounts, volumes and keys. Modules that install through another tool
require the package of that tool from both package managers; the one that the host does not have is
skipped when the requirement is resolved.
-/

namespace Provision

/-- The requirement of a package from whichever package manager the host has. -/
def systemPackage (package : String) : List Prerequisite :=
  [.apt, .yum].map fun pm =>
    ⟨PackageManager.packageModule pm, .singleton "name" (.strings [package])⟩

/-- The schemas of the standard modules. -/
def standardSchemas : List Schema := [
  { id := "linux.apt.package"
    resourceType := .pkg
    attributes := .ofList [("name", "pkgs"), ("repo", "fromrepo"), ("deb conf file", "debconf"),
      ("verify gpg", "verify_gpg")]
    states := ["installed", "latest", "removed", "purged"]
    packageManager := some .apt },
  { id := "linux.yum.package"
    resourceType := .pkg
    attributes := .ofList [("name", "pkgs"), ("repo", "fromrepo"), ("verify gpg", "verify_gpg")]
    states := ["installed", "latest", "removed", "purged"]
    packageManager := some .yum },
  { id := "common.gem.package"
    resourceType := .gem
    attributes := .ofList [("name", "names")]
    states := ["installed", "removed"]
    requires := systemPackage "rubygems" },
  { id := "common.npm.package"
    resourceType := .npm
    attributes := .ofList [("name", "names")]
    states := ["installed", "removed", "bootstrap"]
    requires := systemPackage "npm" },
  { id := "common.pip.package"
    resourceType := .pip
    attributes := .ofList [("name", "names")]
    states := ["installed", "removed"]
    requires := systemPackage "python-pip" },
  { id := "linux.apt.repo"
    resourceType := .file
    attributes := .ofList [("name", "name"), ("content", "contents")]
    states := ["managed"]
    packageManager := some .apt },
  { id := "linux.yum.repo"
    resourceType := .file
    attributes := .ofList [("name", "name"), ("content", "contents")]
    states := ["managed"]
    packageManager := some .yum
    triggers := [⟨"linux.cmd", [⟨"yum-config-manager --enable $name", "name"⟩]⟩] },
  { id := "common.gem.source"
    resourceType := .cmd
    attributes := .ofList [("url", "name")]
    states := ["run"] },
  { id := "common.git"
    resourceType := .git
    attributes := .ofList [("path", "target"), ("repo", "name"), ("branch", "branch"),
      ("revision", "rev"), ("ssh key", "identity"), ("force", "force")]
    states := ["latest", "present"]
    requires := systemPackage "git" },
  { id := "common.svn"
    resourceType := .svn
    attributes := .ofList [("path", "target"), ("repo", "name"), ("branch", "branch"),
      ("revision", "rev"), ("username", "username"), ("password", "password"), ("force", "force")]
    states := ["latest", "export"]
    requires := systemPackage "subversion" },
  { id := "common.hg"
    resourceType := .hg
    attributes := .ofList [("path", "target"), ("repo", "name"), ("branch", "branch"),
      ("revision", "rev"), ("force", "force")]
    states := ["latest"]
    requires := systemPackage "mercurial" },
  { id := "linux.dir"
    resourceType := .file
    attributes := .ofList [("path", "name"), ("user", "user"), ("group", "group"),
      ("mode", "mode"), ("recursive", "recurse"), ("absent", "absent")]
    states := ["directory", "absent"] },
  { id := "linux.file"
    resourceType := .file
    attributes := .ofList [("path", "name"), ("user", "user"), ("group", "group"),
      ("mode", "mode"), ("content", "contents"), ("absent", "absent")]
    states := ["managed", "absent"] },
  { id := "linux.symlink"
    resourceType := .file
    attributes := .ofList [("source", "name"), ("target", "target"), ("user", "user"),
      ("group", "group"), ("mode", "mode"), ("absent", "absent")]
    states := ["symlink", "absent"] },
  { id := "linux.supervisord"
    resourceType := .supervisord
    attributes := .ofList [("name", "name"), ("config", "conf_file")]
    states := ["running"]
    requires := [⟨"common.pip.package", .singleton "name" (.pair "supervisor" (.str ""))⟩] },
  { id := "linux.service"
    resourceType := .service
    attributes := .ofList [("name", "names")]
    states := ["running"] },
  { id := "linux.cmd"
    resourceType := .cmd
    attributes := .ofList [("bin", "shell"), ("cmd", "name"), ("cwd", "cwd"), ("user", "user"),
      ("group", "group"), ("timeout", "timeout"), ("env", "env"), ("if path present", "onlyif"),
      ("if path absent", "unless")]
    states := ["run", "call", "wait", "script"] },
  { id := "linux.cron"
    resourceType := .cron
    attributes := .ofList [("minute", "minute"), ("hour", "hour"), ("day of month", "daymonth"),
      ("month", "month"), ("day of week", "dayweek"), ("user", "user"), ("cmd", "name")]
    states := ["present", "absent"] },
  { id := "linux.user"
    resourceType := .user
    attributes := .ofList [("username", "name"), ("password", "password"),
      ("fullname", "fullname"), ("uid", "uid"), ("gid", "gid"), ("shell", "shell"),
      ("home", "home"), ("nologin", "nologin"), ("groups", "groups")]
    states := ["present", "absent"] },
  { id := "linux.group"
    resourceType := .group
    attributes := .ofList [("groupname", "name"), ("gid", "gid"), ("system", "system")]
    states := ["present", "absent"] },
  { id := "linux.mount"
    resourceType := .mount
    attributes := .ofList [("path", "name"), ("device", "device"), ("filesystem", "fstype"),
      ("dump", "dump"), ("passno", "pass_num"), ("opts", "opts")]
    states := ["mounted", "unmounted"] },
  { id := "linux.selinux"
    resourceType := .selinux
    attributes := .ofList [("name", "name"), ("value", "value"), ("persist", "persist")]
    states := ["boolean", "mode"]
    requires :=
      [⟨"linux.yum.package", .singleton "name" (.strings ["libsemanage", "setools-console",
      "policycoreutils-python"])⟩] },
  { id := "common.timezone"
    resourceType := .timezone
    attributes := .ofList [("name", "name"), ("use utc", "utc")]
    states := ["system"] },
  { id := "linux.lvm.pv"
    resourceType := .lvm
    attributes := .ofList [("path", "names"), ("force", "force"), ("uuid", "uuid"),
      ("zero", "zero"), ("data alignment", "dataalignment"),
      ("data alignment offset", "dataalignmentoffset"), ("metadata size", "metadatasize"),
      ("metadata type", "metadatatype"), ("metadata copies", "metadatacopies"),
      ("metadata ignore", "metadataignore"), ("restorefile", "restorefile"),
      ("norestorefile", "norestorefile"), ("label sector", "labelsector"),
      ("PV size", "setphysicalvolumesize")]
    states := ["pv_present"] },
  { id := "linux.lvm.vg"
    resourceType := .lvm
    attributes := .ofList [("name", "name"), ("path", "devices"), ("clustered", "clustered"),
      ("max LV number", "maxlogicalvolumes"), ("max PV number", "maxphysicalvolumes"),
      ("metadata type", "metadatatype"), ("metadata copies", "metadatacopies"),
      ("PE size", "physicalextentsize"), ("autobackup", "autobackup"), ("tag", "addtag"),
      ("allocation policy", "alloc")]
    states := ["vg_present", "vg_absent"] },
  { id := "linux.lvm.lv"
    resourceType := .lvm
    attributes := .ofList [("name", "name"), ("VG name", "vgname"), ("path", "pv"),
      ("chunk size", "chunksize"), ("contiguous", "contiguous"), ("stripe number", "stripes"),
      ("stripe size", "stripesize"), ("LE number", "extents"), ("LV size", "size"),
      ("minor number", "minor"), ("persistent", "persistent"), ("mirror number", "mirrors"),
      ("no udev sync", "noudevsync"), ("monitor", "monitor"),
      ("ignore monitoring", "ignoremonitoring"), ("permission", "permission"),
      ("region size", "regionsize"), ("readahead", "readahead"), ("type", "type"),
      ("virtual size", "virtualsize"), ("zero", "zero"), ("available", "available"),
      ("snapshot", "snapshot"), ("autobackup", "autobackup"), ("tag", "addtag"),
      ("allocation policy", "alloc")]
    states := ["lv_present", "lv_absent"] },
  { id := "common.virtualenv"
    resourceType := .virtualenv
    attributes := .ofList [("path", "name"), ("python", "python"),
      ("system site packages", "system_site_packages"), ("extra search dir", "extra-search-dir"),
      ("requirements", "requirements")]
    states := ["managed"]
    requires := [⟨"common.pip.package", .singleton "name" (.pair "virtualenv" (.str ""))⟩] },
  { id := "common.ssh.auth"
    resourceType := .sshAuth
    attributes := .ofList [("authname", "name"), ("username", "user"), ("filename", "config"),
      ("content", "content"), ("encrypt_algorithm", "enc")]
    states := ["present", "absent"] },
  { id := "common.ssh.known_host"
    resourceType := .sshKnownHosts
    attributes := .ofList [("hostname", "name"), ("username", "user"), ("filename", "config"),
      ("fingerprint", "fingerprint"), ("encrypt_algorithm", "enc")]
    states := ["present", "absent"] }]

/-- The registry of the standard modules. -/
def Registry.standard : Registry := .ofList standardSchemas

end Provision
