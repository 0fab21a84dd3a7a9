import Rollout.Scenario.Document
import Rollout.Scenario.Download
import Rollout.Text.Search

/-!
# Staging

Settles where the files and the repository of an app come from. A file with a web address is
downloaded; one with a relative path is marked as relative to the folder of the configuration file,
which is known only when an action is run. A relative place is put below the app's.
-/

namespace Rollout

open Text

/-- The mark of paths that are relative to the folder of the configuration file. -/
def baseDirToken : String :=
  "@BASEDIR"

/-- The mode of files that declare none. -/
def defaultFileMode : UInt32 :=
  400

/-- The branch of repositories that name none. -/
def defaultBranch : String :=
  "master"

namespace Customization

def isRemote (c : Customization) : Bool :=
  startsWith c.src "http"

def localSource (c : Customization) : String :=
  if startsWith c.src "/" || startsWith c.src baseDirToken then c.src
  else baseDirToken ++ "/" ++ c.src

def settledDest (c : Customization) (appDest : String) : String :=
  if startsWith c.dest "/" || startsWith c.dest "~" then c.dest
  else trimSlashes appDest ++ "/" ++ c.dest

def settle (c : Customization) (appDest src : String) : Customization :=
  { src
    dest := c.settledDest appDest
    destFolder := folderOf (c.settledDest appDest)
    mode := if c.mode = 0 then defaultFileMode else c.mode }

def configure (downloader : Downloader) (suffix appDest : String) (c : Customization) :
    Fetched Customization :=
  if c.isRemote then do
    let src ← Fetched.fetch downloader ⟨c.src, suffix⟩
    return c.settle appDest src
  else return c.settle appDest c.localSource

/-- Configures a file where it stands: what it is afterwards, also if the download failed. The fields
are written one after the other, each from what is there by then. -/
def configureInPlace (downloader : Downloader) (suffix appDest : String) (c : Customization) :
    Customization × Fetched Unit :=
  let source :=
    if c.isRemote then Fetched.fetch downloader ⟨c.src, suffix⟩ else pure c.localSource
  match source.result with
  | .error e => (c, ⟨source.downloads, .error e⟩)
  | .ok src =>
    let c := { c with src }
    let c := { c with mode := if c.mode = 0 then defaultFileMode else c.mode }
    let c := { c with dest := c.settledDest appDest }
    ({ c with destFolder := folderOf c.dest }, ⟨source.downloads, .ok ()⟩)

end Customization

/-- Checks the address of a repository, which must name an alias of the host and not a login, and
gives it a branch. -/
def Repository.configure (r : Repository) : Except ScenarioError Repository :=
  if contains r.sshUrl "@" || !contains r.sshUrl ".git" then .error (.invalidRepository r.sshUrl)
  else .ok { r with branch := if r.branch.isEmpty then defaultBranch else r.branch }

/-- Settles the repository of an app; one without an address is none. -/
def Repository.configureOption : Option Repository → Except ScenarioError (Option Repository)
  | none => .ok none
  | some r => if r.sshUrl.isEmpty then .ok none else some <$> r.configure

end Rollout
