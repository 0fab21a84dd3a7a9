import Rollout.Action.Basic
import Rollout.Backend.Error
import Rollout.Path
import Rollout.Scenario.Staging

/-!
# Invocations

What is known only when actions are run: where the configuration file is, which keys and which
inventory to use, and where the plays are.
-/

namespace Rollout

structure Invocation where
  /-- The folder of the configuration file. -/
  baseDir : String := ""
  /-- The key for repositories that name none. -/
  gitKey : String := ""
  privateKey : String := ""
  inventory : String := ""
  /-- The folder of the plays. -/
  playbookPath : String := ""
  debug : UInt8 := 0
deriving DecidableEq, Repr

namespace Invocation

open Text

def validate (inv : Invocation) (backend : Backend) : Except BackendError Unit :=
  if inv.inventory.isEmpty then .error (.noInventory backend)
  else if inv.playbookPath.isEmpty then .error (.noPlaybookPath backend)
  else .ok ()

def giveKey (inv : Invocation) (r : Repository) : Repository :=
  { r with sshKey := if r.sshKey.isEmpty then inv.gitKey else r.sshKey }

def playPath (inv : Invocation) (play : String) : String :=
  if inv.playbookPath.isEmpty then play else trimSlashes inv.playbookPath ++ "/" ++ play

/-- The source of a file, from the root if it was relative to the configuration file. -/
def resolveSource (inv : Invocation) (cwd src : String) : Except FileError String :=
  match strip? baseDirToken.toList src.toList with
  | none => .ok src
  | some rest =>
    let relative := String.ofList (rest.dropWhile (· = '/'))
    match Path.absolute? cwd (Path.join inv.baseDir relative) with
    | some path => .ok path
    | none => .error .emptyPath

/-- The files with their sources resolved. At a failure the files from there on stay as they are. -/
def resolveFiles (inv : Invocation) (cwd : String) :
    List Customization → List Customization × Except FileError Unit
  | [] => ([], .ok ())
  | file :: rest =>
    match inv.resolveSource cwd file.src with
    | .error e => (file :: rest, .error e)
    | .ok src =>
      let (files, result) := inv.resolveFiles cwd rest
      ({ file with src } :: files, result)

/-- Fills in what the caller gives. At a failure the action is as far as it came. -/
def prepare (inv : Invocation) (cwd : String) (a : Action) : Action × Except FileError Unit :=
  let (files, result) := inv.resolveFiles cwd a.files
  ({ a with
      repository := a.repository.map inv.giveKey
      play := inv.playPath a.play
      inventoryFile := inv.inventory
      privateKey := inv.privateKey
      debug := inv.debug
      files }, result)

end Invocation

end Rollout
