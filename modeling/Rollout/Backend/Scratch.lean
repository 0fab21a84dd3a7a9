import Rollout.Backend.Error
import Rollout.File.Tree

/-!
# Scratch folders

A folder for files that are needed only while actions run. The name of each holds the suffix of its
scenario and a fresh identifier, so that what an earlier run left can be told from other scenarios'
files and removed.
-/

namespace Rollout

/-- A scratch folder, by its path. -/
structure Scratch where
  root : String
deriving DecidableEq, Repr

namespace Scratch

open Text

/-- A number below 2^128 as an identifier. -/
def identifier (n : Nat) : String :=
  let digits := Nat.toDigits 16 (n % Nat.pow 2 128)
  String.ofList (List.replicate (32 - digits.length) '0' ++ digits)

/-- What the names of a scenario's scratch files start with. -/
def lead (suffix : String) : String :=
  "rigger-" ++ suffix ++ "-"

def fileName (suffix extension id : String) : String :=
  lead suffix ++ id ++ (if extension.isEmpty then "" else "." ++ extension)

def pathFor (s : Scratch) (suffix extension id : String) : String :=
  Path.join s.root (fileName suffix extension id)

/-- Writes a scratch file; answers with its path. -/
def write (s : Scratch) (files : FileTree) (suffix extension id content : String) :
    Except BackendError (FileTree × String) :=
  let path := s.pathFor suffix extension id
  match files.writeFile path content with
  | .ok files => .ok (files, path)
  | .error e => .error (.file e)

/-- Whether a file that stands directly in a folder was left behind for a suffix. -/
def belongsTo (folder : List String) (suffix : String) : List String × FileItem → Bool
  | (_, .folder) => false
  | (place, .file _) => (FileTree.nameIn? folder place).any (startsWith · (lead suffix))

/-- Whether something that stands directly in the scratch folder can be reached through its root. -/
def reaches (s : Scratch) (place : List String) : Bool :=
  place.getLast?.any fun name => FileTree.fits (Path.join s.root name)

/-- Removes what was left behind for a suffix, as far as it can be reached; answers with how much it
was. -/
def cleanup (s : Scratch) (files : FileTree) (suffix : String) :
    Except BackendError (FileTree × Nat) :=
  match files.locateFolder s.root with
  | .error e => .error (.file e)
  | .ok folder =>
    let removed (entry : List String × FileItem) : Bool :=
      belongsTo folder suffix entry && s.reaches entry.1
    .ok ({ files with items := files.items.filter (!removed ·) },
      (files.items.filter removed).length)

end Scratch

end Rollout
