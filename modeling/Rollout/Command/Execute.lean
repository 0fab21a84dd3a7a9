import Rollout.Action.Compile
import Rollout.Backend.Invocation
import Rollout.Backend.Run
import Rollout.Command.Arguments
import Rollout.Command.Report
import Rollout.Scenario.Decode

/-!
# Commands

What a command does in its surroundings: it reads a scenario, compiles it and, for `exec`, runs the
actions in their order until one fails.
-/

namespace Rollout

structure Surroundings where
  env : Environment
  scratch : Scratch
  download : Downloader
  /-- How the backend's program answers the n-th call. -/
  answer : Nat → Answer
  /-- The identifier of the n-th scratch file. -/
  id : Nat → String

structure CommandOutcome where
  code : Nat
  stdout : String := ""
  stderr : String := ""
  calls : List Call := []
  files : FileTree

namespace Command

/-! ## Steps -/

def ReadError.describe : ReadError → String
  | .syntaxError => "not a JSON value"
  | .dataError => "not a scenario document"

/-- The chain of causes of a backend's error. -/
def causesOf : BackendError → List String
  | .file e => [(BackendError.file e).message, e.message]
  | .start e => [(BackendError.start e).message, e.message]
  | e => [e.message]

/-- Names what was being done when an error arose. -/
def during {ε α : Type} (context : String) (causes : ε → List String) (x : Except ε α) :
    Except Failure α :=
  x.mapError fun e => ⟨context, causes e⟩

def readDocument (files : FileTree) (path : String) : Except Failure Document := do
  let text ← during ("Failed to read config file: " ++ path) (fun e => [e.message])
    (files.readText path)
  during ("Failed to parse scenario: " ++ path) (fun e => [ReadError.describe e])
    (Document.read text)

def compileDocument (here : Surroundings) (backend : Backend) (d : Document) :
    Except Failure (List Action) := do
  let scenario ← during "Failed to normalize scenario" (fun e => [e.message])
    (d.normalize here.download).result
  during "Failed to compile scenario" (fun e => [e.message])
    (Compiler.compile ⟨backend, here.env⟩ scenario)

/-! ## Runs -/

structure Runs where
  files : FileTree
  calls : List Call
  result : Except Failure Unit

/-- Runs the actions that match a trigger, the first one as the n-th, until one fails. -/
def runFrom (here : Surroundings) (backend : Backend) (inv : Invocation) (trigger : String)
    (n : Nat) (files : FileTree) : List Action → Runs
  | [] => ⟨files, [], .ok ()⟩
  | action :: rest =>
    if action.matchesTrigger trigger then
      let (action, prepared) := inv.prepare files.cwd action
      match prepared with
      | .error e => ⟨files, [], .error ⟨s!"Failed to prepare action '{action.name}'", [e.message]⟩⟩
      | .ok () =>
        let run := backend.run (here.answer n) (here.id n) here.scratch files action
        match run.result with
        | .error e =>
          ⟨run.files, run.call.toList, .error ⟨s!"Action '{action.name}' failed", causesOf e⟩⟩
        | .ok () =>
          let next := runFrom here backend inv trigger (n + 1) run.files rest
          { next with calls := run.call.toList ++ next.calls }
    else runFrom here backend inv trigger n files rest

def invocation (options : ExecOptions) (debug : UInt8) : Invocation where
  baseDir := Path.folder options.config
  gitKey := options.gitKey
  privateKey := options.privateKey
  inventory := options.inventory
  playbookPath := options.playbookPath
  debug

/-- The files without what earlier runs left in the scratch folder, and the actions to run. -/
def plan (here : Surroundings) (options : ExecOptions) (inv : Invocation) (files : FileTree) :
    FileTree × Except Failure (List Action) :=
  let document := do
    during "Invalid parameters" causesOf (inv.validate options.backend)
    readDocument files options.config
  match document with
  | .error f => (files, .error f)
  | .ok d =>
    match during "Failed to clean scratch files" causesOf (here.scratch.cleanup files d.suffix) with
    | .error f => (files, .error f)
    | .ok (files, _) => (files, compileDocument here options.backend d)

def runScenario (here : Surroundings) (options : ExecOptions) (debug : UInt8) (files : FileTree) :
    Runs :=
  let inv := invocation options debug
  match plan here options inv files with
  | (files, .error f) => ⟨files, [], .error f⟩
  | (files, .ok actions) => runFrom here options.backend inv options.trigger 0 files actions

/-! ## Outcomes -/

def compiled (here : Surroundings) (files : FileTree) (options : ScenarioOptions) :
    Except Failure (List Action) := do
  let d ← readDocument files options.config
  compileDocument here options.backend d

def execute (here : Surroundings) (files : FileTree) : Command → CommandOutcome
  | .compile options =>
    match compiled here files options with
    | .ok actions =>
      { code := 0, stdout := (Json.ofList Action.encode actions).pretty ++ "\n", files }
    | .error f => { code := 1, stderr := f.report, files }
  | .validate options =>
    match compiled here files options with
    | .ok actions =>
      { code := 0, stdout := s!"Scenario is valid ({actions.length} actions)\n", files }
    | .error f => { code := 1, stdout := "Scenario error: " ++ f.line ++ "\n", files }
  | .exec options debug =>
    let runs := runScenario here options debug files
    match runs.result with
    | .ok () => { code := 0, calls := runs.calls, files := runs.files }
    | .error f => { code := 1, stderr := f.report, calls := runs.calls, files := runs.files }

def usageCode : Nat :=
  2

end Command

end Rollout
