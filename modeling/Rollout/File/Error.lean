/-!
# File errors

Why a file cannot be read, made or run.
-/

namespace Rollout

inductive FileError where
  | notFound
  | denied
  | alreadyExists
  | notFolder
  | isFolder
  /-- A name or a whole path is too long. -/
  | nameTooLong
  | zeroCharacter
  | invalidText
  /-- An empty path leads nowhere. -/
  | emptyPath
deriving DecidableEq, Repr

def FileError.message : FileError → String
  | .notFound => "No such file or directory (os error 2)"
  | .denied => "Permission denied (os error 13)"
  | .alreadyExists => "File exists (os error 17)"
  | .notFolder => "Not a directory (os error 20)"
  | .isFolder => "Is a directory (os error 21)"
  | .nameTooLong => "File name too long (os error 36)"
  | .zeroCharacter => "file name contained an unexpected NUL byte"
  | .invalidText => "stream did not contain valid UTF-8"
  | .emptyPath => "cannot make an empty path absolute"

end Rollout
