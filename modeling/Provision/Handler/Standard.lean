import Provision.Handler.Host
import Provision.Handler.Packages
import Provision.Handler.Sources

/-!
# The handlers of the standard modules
-/

namespace Provision

/-- The handlers of the standard modules. A module that is not listed puts all attributes into its
default state. -/
def HandlerTable.standard : HandlerTable := .ofList [
  ("linux.apt.package", Handler.systemPackages),
  ("linux.yum.package", Handler.systemPackages),
  ("common.npm.package", Handler.npmPackages),
  ("common.pip.package", Handler.pinnedPackages),
  ("common.gem.package", Handler.pinnedPackages),
  ("common.git", Handler.sourceControl),
  ("common.svn", Handler.sourceControl),
  ("common.hg", Handler.sourceControl),
  ("linux.apt.repo", Handler.repositoryFile),
  ("linux.yum.repo", Handler.repositoryFile),
  ("common.gem.source", Handler.gemSource),
  ("common.ssh.auth", Handler.sshKey),
  ("common.ssh.known_host", Handler.sshKey),
  ("linux.dir", Handler.directory),
  ("linux.file", Handler.path),
  ("linux.symlink", Handler.path),
  ("linux.cmd", Handler.command),
  ("linux.user", Handler.account),
  ("linux.group", Handler.account),
  ("linux.mount", Handler.mount),
  ("linux.lvm.vg", Handler.volume),
  ("linux.lvm.lv", Handler.volume)]

end Provision
