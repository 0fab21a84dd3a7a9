import Rollout.Backend.Basic
import Rollout.File.Error

/-!
# Backend errors

Why a backend does not run an action.
-/

namespace Rollout

/-- Why a program is not started. -/
inductive StartError where
  /-- An argument holds the character that ends arguments. -/
  | zeroCharacter
  /-- There is no program. -/
  | noProgram (error : FileError)
  | argumentTooLong
deriving DecidableEq, Repr

def StartError.message : StartError → String
  | .zeroCharacter => "nul byte found in provided data"
  | .noProgram error => error.message
  | .argumentTooLong => "Argument list too long (os error 7)"

inductive BackendError where
  | unknownBackend (name : String)
  | noInventory (backend : Backend)
  | noPlaybookPath (backend : Backend)
  | file (error : FileError)
  | start (error : StartError)
  /-- The program ended with a status other than zero. -/
  | commandFailed (program : String) (status : UInt8)
deriving DecidableEq, Repr

def BackendError.message : BackendError → String
  | .unknownBackend name => "unknown backend: " ++ name
  | .noInventory backend =>
    "invalid parameters: --inventory is required for " ++ backend.name ++ " backend"
  | .noPlaybookPath backend =>
    "invalid parameters: --playbook-path is required for " ++ backend.name ++ " backend"
  | .file error => "IO error: " ++ error.message
  | .start error => "IO error: " ++ error.message
  | .commandFailed program status => program ++ s!" failed: exit status: {status}"

end Rollout
