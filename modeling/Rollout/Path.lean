import Rollout.Text.Search

/-!
# Paths

Paths with slashes, as text. Empty components and single dots stand for nothing, but for a dot at the
start of a relative path; two dots are kept, since a link may stand before them.
-/

namespace Rollout.Path

/-- The parts of a text between slashes; one, which may be empty, if there is no slash. -/
def components : List Char → List (List Char)
  | [] => [[]]
  | '/' :: cs => [] :: components cs
  | c :: cs =>
    match components cs with
    | [] => [[c]]
    | first :: rest => (c :: first) :: rest

def joined : List (List Char) → List Char
  | [] => []
  | [part] => part
  | part :: rest => part ++ '/' :: joined rest

def isIdle (component : List Char) : Bool :=
  component = [] || component = ['.']

def trimIdle (parts : List (List Char)) : List (List Char) :=
  (parts.reverse.dropWhile isIdle).reverse

/-! ## Folder of a file -/

/-- What a path starts with before its components: the root, or the dot of a relative path. -/
def splitHead : List Char → List Char × List Char
  | '/' :: rest => (['/'], rest)
  | ['.'] => (['.'], [])
  | '.' :: '/' :: rest => (['.'], '/' :: rest)
  | s => ([], s)

/-- The folder of the file at a path, a dot if the path names none. -/
def folder (path : String) : String :=
  let (head, body) := splitHead path.toList
  match trimIdle (components body) with
  | [] => "."
  | parts =>
    let parent := head ++ joined (trimIdle parts.dropLast)
    if parent.isEmpty then "." else String.ofList parent

/-! ## Absolute paths -/

def append (base relative : List Char) : List Char :=
  match base.getLast? with
  | none => relative
  | some '/' => base ++ relative
  | some _ => base ++ '/' :: relative

/-- The folder with a path appended, or the path alone if it is absolute. -/
def join (base path : String) : String :=
  if Text.startsWith path "/" then path else String.ofList (append base.toList path.toList)

/-- What an absolute path starts with: two slashes if the path starts with exactly two. -/
def absoluteHead (cwd : List Char) : List Char → List Char
  | '/' :: '/' :: '/' :: _ => ['/']
  | '/' :: '/' :: _ => ['/', '/']
  | '/' :: _ => ['/']
  | _ => cwd

/-- The path from the root to a path in the folder `cwd`, without idle components. A slash at its end
stays. An empty path has none. -/
def absolute? (cwd path : String) : Option String :=
  match path.toList with
  | [] => none
  | s =>
    let head := absoluteHead cwd.toList s
    let parts := (components s).filter (!isIdle ·)
    let body := if parts.isEmpty then head else append head (joined parts)
    some (String.ofList (if s.getLast? = some '/' then append body [] else body))

end Rollout.Path
