import Rollout.Action.Basic
import Rollout.Backend.Scratch
import Rollout.Json.Writer

/-!
# Running actions

An action is run by the backend's program, which gets the action's extra variables in a scratch file.
-/

namespace Rollout

/-! ## What the program gets -/

/-- The member of a list that is written only if it has elements. -/
def memberUnlessEmpty {α : Type} (key : String) (encode : α → Json) (values : List α) :
    List (String × Json) :=
  if values.isEmpty then [] else [(key, .ofList encode values)]

/-- The extra variables of an action. What an action does not have is not written. -/
def Action.extraVars (a : Action) : Json :=
  .object <|
    [("dest", .string a.dest), ("play", .string a.play), ("inventory", .string a.inventory)] ++
    (if a.pythonInterpreter.isEmpty then []
      else [("ansible_python_interpreter", .string a.pythonInterpreter)]) ++
    (a.repository.map fun r => ("repository", r.encode)).toList ++
    memberUnlessEmpty "files" Customization.encode a.files ++
    memberUnlessEmpty "containers" Container.encode a.containers

def debugArguments (level : UInt8) : List String :=
  match level.toNat with
  | 0 => []
  | 1 => ["-v"]
  | 2 => ["-vv"]
  | _ => ["-vvv"]

def Action.arguments (a : Action) (variablesFile : String) : List String :=
  [a.play, "-i", a.inventoryFile, "-u", a.user] ++
    (if a.privateKey.isEmpty then [] else ["--private-key", a.privateKey]) ++
    ["--extra-vars", "@" ++ variablesFile] ++ debugArguments a.debug

/-! ## Calls -/

/-- A call of the program: its arguments and the text of the extra variables. -/
structure Call where
  arguments : List String
  extraVars : String
deriving DecidableEq, Repr

/-- What comes of calling the program. -/
inductive Answer where
  /-- There is no program to call. -/
  | missing (error : FileError)
  | exited (status : UInt8)
deriving DecidableEq, Repr

/-- How many bytes an argument may have. -/
def argumentLimit : Nat :=
  131071

/-- The status with which the program ends, if it is started. -/
def Call.start (call : Call) (answer : Answer) : Except StartError UInt8 :=
  if call.arguments.any (·.toList.contains '\x00') then .error .zeroCharacter
  else
    match answer with
    | .missing error => .error (.noProgram error)
    | .exited status =>
      if call.arguments.any fun a => argumentLimit < Text.byteLength a.toList then
        .error .argumentTooLong
      else .ok status

/-- What a run leaves behind: the files, the call if there was one, and the result. -/
structure RunOutcome where
  files : FileTree
  call : Option Call
  result : Except BackendError Unit

def Backend.run (backend : Backend) (answer : Answer) (id : String) (scratch : Scratch)
    (files : FileTree) (a : Action) : RunOutcome :=
  let extraVars := a.extraVars.compact
  match scratch.write files a.suffix "json" id extraVars with
  | .error e => ⟨files, none, .error e⟩
  | .ok (files, path) =>
    let call : Call := ⟨a.arguments path, extraVars⟩
    match call.start answer with
    | .error e => ⟨files, none, .error (.start e)⟩
    | .ok 0 => ⟨files, some call, .ok ()⟩
    | .ok status => ⟨files, some call, .error (.commandFailed backend.program status)⟩

end Rollout
