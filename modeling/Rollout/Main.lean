import Rollout.Command.Execute

/-!
# The program

Gathers what a command finds around it, carries the command out and puts down what it leaves behind.
Programs and networks are out of reach from here: a download fails, and so does the first action that
is run, once its variables are written.
-/

namespace Rollout.Program

def environment : IO Environment := do
  let bytes ← IO.FS.readBinFile "/proc/self/environ"
  return .ofEntries (((String.fromUTF8? bytes).getD "").splitOn "\x00")

/-- The tree with the file or folder at a path, if there is one. -/
def withFile (path : String) (t : FileTree) : IO FileTree := do
  if ← ((← IO.currentDir) / path).isDir then return t.withFolder path
  try
    let content ← IO.FS.readBinFile path
    let t := t.withFolder (Path.folder path)
    match t.locate path with
    | .ok place => return t.put place (.file content)
    | .error _ => return t
  catch _ => return t

/-- The tree with a folder and what is in it, if it is there. Contents are not read. -/
def withEntries (path : String) (t : FileTree) : IO FileTree := do
  try
    let entries ← ((← IO.currentDir) / path).readDir
    let t := t.withFolder path
    match t.locate path with
    | .ok place =>
      entries.foldlM (fun t entry => do
        let item := if ← entry.path.isDir then FileItem.folder else .file .empty
        return t.put (place ++ [entry.fileName]) item) t
    | .error _ => return t
  catch _ => return t

def pathOf (place : List String) : String :=
  "/" ++ "/".intercalate place

/-- Removes the files that are only in the tree before, and makes those that are only in the one
after. -/
def update (before after : FileTree) : IO Unit := do
  for (place, item) in before.items do
    if let .file _ := item then
      if (after.item? place).isNone then IO.FS.removeFile (pathOf place)
  for (place, item) in after.items do
    if let .file content := item then
      if (before.item? place).isNone then IO.FS.writeBinFile (pathOf place) content

def seed : IO Nat := do
  let bytes ← IO.getRandomBytes 16
  return bytes.toList.foldl (fun n b => n * 256 + b.toNat) 0

def run (args : List String) : IO UInt32 := do
  let env ← environment
  let some command := Command.ofArguments? env args
    | IO.eprintln "usage: rigger [--debug N] exec|compile|validate [options]"
      return .ofNat Command.usageCode
  let root := (env.get? "TMPDIR").getD "/tmp"
  let cwd := toString (← IO.currentDir)
  let files ← withFile command.config (← withEntries root (FileTree.withFolder { cwd } cwd))
  let start ← seed
  let here : Surroundings := {
    env
    scratch := ⟨root⟩
    download := .offline
    answer := fun _ => .missing .notFound
    id := fun n => Scratch.identifier (start + n) }
  let outcome := command.execute here files
  update files outcome.files
  IO.print outcome.stdout
  IO.eprint outcome.stderr
  return .ofNat outcome.code

end Rollout.Program

def main (args : List String) : IO UInt32 :=
  Rollout.Program.run args
