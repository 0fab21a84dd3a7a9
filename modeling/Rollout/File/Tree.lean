import Rollout.File.Error
import Rollout.Path

/-!
# File trees

Files and folders as values. A path is followed name by name, and each name but the last has to lead
to a folder. What is written answers with the tree that holds it. No file of a tree can be run.
-/

namespace Rollout

inductive FileItem where
  | folder
  | file (content : ByteArray)

/-- What is below the root, which is a folder itself, by the names that lead there. -/
structure FileTree where
  /-- The folder in which relative paths start. -/
  cwd : String := "/"
  items : List (List String × FileItem) := []

namespace FileTree

/-! ## Paths -/

def item? (t : FileTree) (place : List String) : Option FileItem :=
  if place = [] then some .folder else t.items.lookup place

/-- How many bytes a name may have. -/
def nameLimit : Nat :=
  255

/-- Where components lead from a place. The last name may be missing from the tree. -/
def walk (t : FileTree) (place : List String) : List (List Char) → Except FileError (List String)
  | [] => .ok place
  | part :: rest =>
    match t.item? place with
    | none => .error .notFound
    | some (.file _) => .error .notFolder
    | some .folder =>
      if Path.isIdle part then t.walk place rest
      else if part = ['.', '.'] then t.walk place.dropLast rest
      else if nameLimit < Text.byteLength part then .error .nameTooLong
      else t.walk (place ++ [String.ofList part]) rest

theorem walk_append (t : FileTree) (place : List String) (parts rest : List (List Char)) :
    t.walk place (parts ++ rest) = (t.walk place parts).bind (t.walk · rest) := by
  induction parts generalizing place with
  | nil => rfl
  | cons part parts ih =>
    simp only [List.cons_append, walk]
    split <;> try rfl
    split
    · exact ih _
    split
    · exact ih _
    split
    · rfl
    · exact ih _

/-- How many bytes a path may have, as it is given. -/
def pathLimit : Nat :=
  4095

def fits (path : String) : Bool :=
  Text.byteLength path.toList ≤ pathLimit

/-- The components of a path that can be followed, from the root. -/
def components (t : FileTree) (path : String) : Except FileError (List (List Char)) :=
  if path.isEmpty then .error .notFound
  else if path.toList.contains '\x00' then .error .zeroCharacter
  else if !fits path then .error .nameTooLong
  else .ok (Path.components (Path.join t.cwd path).toList)

def locate (t : FileTree) (path : String) : Except FileError (List String) := do
  let parts ← t.components path
  t.walk [] parts

/-- A place if there is a folder. -/
def folderAt (t : FileTree) (place : List String) : Except FileError (List String) :=
  match t.item? place with
  | none => .error .notFound
  | some (.file _) => .error .notFolder
  | some .folder => .ok place

/-- The folder in which something is made at a path, whether or not slashes end it, and the name that
it gets there. A path to the root or with dots at its end gives no name. -/
def locateNew (t : FileTree) (path : String) :
    Except FileError (List String × Option (List Char)) := do
  let parts ← t.components path
  match parts.reverse.dropWhile (· = []) with
  | [] => return ([], none)
  | name :: before =>
    let place ← t.walk [] before.reverse
    let folder ← t.folderAt place
    return (folder, if name = ['.'] || name = ['.', '.'] then none else some name)

/-- The place of a name in a folder. -/
def placeIn (folder : List String) (name : List Char) : Except FileError (List String) :=
  if nameLimit < Text.byteLength name then .error .nameTooLong
  else .ok (folder ++ [String.ofList name])

/-! ## Reading -/

def readText (t : FileTree) (path : String) : Except FileError String := do
  let place ← t.locate path
  match t.item? place with
  | none => .error .notFound
  | some .folder => .error .isFolder
  | some (.file content) =>
    match String.fromUTF8? content with
    | some text => .ok text
    | none => .error .invalidText

def locateFolder (t : FileTree) (path : String) : Except FileError (List String) := do
  let place ← t.locate path
  t.folderAt place

/-- The name of something that stands directly in a folder. -/
def nameIn? (folder place : List String) : Option String :=
  if place.dropLast = folder then place.getLast? else none

def names (t : FileTree) (folder : List String) : List String :=
  t.items.filterMap fun entry => nameIn? folder entry.1

/-! ## Programs -/

/-- Why what is at a path cannot be run. -/
def runError (t : FileTree) (path : String) : FileError :=
  match t.locate path with
  | .error e => e
  | .ok place => if (t.item? place).isSome then .denied else .notFound

/-- Why no program of a name is started from one of the folders, `last` being the reason so far.
Something of that name is the reason, wherever it is; otherwise it is the last folder's. A folder
whose own path is too long is passed over at the end; before the end it stands for the current one. -/
def searchError (t : FileTree) (name : String) (last : FileError) : List String → FileError
  | [] => last
  | folder :: rest =>
    if rest.isEmpty && !fits folder then last
    else
      match t.runError (if folder.isEmpty || !fits folder then name else folder ++ "/" ++ name) with
      | .nameTooLong => .nameTooLong
      | e => t.searchError name (if last = .denied then last else e) rest

/-! ## Writing -/

def put (t : FileTree) (place : List String) (item : FileItem) : FileTree :=
  { t with items := t.items.filter (·.1 ≠ place) ++ [(place, item)] }

theorem lookup_put (items : List (List String × FileItem)) (place other : List String)
    (item : FileItem) :
    (items.filter (·.1 ≠ place) ++ [(place, item)]).lookup other =
      if other = place then some item else items.lookup other := by
  induction items with
  | nil =>
    by_cases h : other = place
    · simp [h]
    · simp [List.lookup_cons, beq_false_of_ne h, h]
  | cons entry items ih =>
    obtain ⟨name, old⟩ := entry
    by_cases hn : name = place
    · by_cases h : other = place
      · simpa [hn, h] using ih
      · simpa [hn, List.lookup_cons, beq_false_of_ne h, h] using ih
    · by_cases h : other = name
      · simp [hn, h]
      · simpa [hn, List.lookup_cons, beq_false_of_ne h] using ih

theorem item?_put (t : FileTree) {place : List String} (other : List String) (item : FileItem)
    (h : place ≠ []) :
    (t.put place item).item? other = if other = place then some item else t.item? other := by
  by_cases ho : other = []
  · simp [item?, ho, h.symm]
  · simp only [item?, ho, if_false, put]
    exact lookup_put t.items place other item

def writeFile (t : FileTree) (path content : String) : Except FileError FileTree := do
  match ← t.locateNew path with
  | (_, none) => .error .isFolder
  | (folder, some name) =>
    if Text.endsWith path "/" then .error .isFolder
    else
      let place ← placeIn folder name
      match t.item? place with
      | some .folder => .error .isFolder
      | _ => .ok (t.put place (.file content.toUTF8))

def makeFolder (t : FileTree) (path : String) : Except FileError FileTree := do
  match ← t.locateNew path with
  | (_, none) => .error .alreadyExists
  | (folder, some name) =>
    let place ← placeIn folder name
    match t.item? place with
    | some _ => .error .alreadyExists
    | none => .ok (t.put place .folder)

/-- Adds the folders that components lead through from a place, where they are missing. -/
def addFolders (t : FileTree) (place : List String) : List (List Char) → FileTree
  | [] => t
  | part :: rest =>
    if Path.isIdle part then t.addFolders place rest
    else if part = ['.', '.'] then t.addFolders place.dropLast rest
    else
      let next := place ++ [String.ofList part]
      let t := if (t.item? next).isSome then t else t.put next .folder
      t.addFolders next rest

/-- The tree with a folder at a path, and all folders on the way there. -/
def withFolder (t : FileTree) (path : String) : FileTree :=
  t.addFolders [] (Path.components (Path.join t.cwd path).toList)

end FileTree

end Rollout
