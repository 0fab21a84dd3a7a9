import Rollout.Scenario.Decode
import Rollout.Scenario.Encode
import Rollout.Text.Search

/-!
# Actions

An action is all that the backend needs to run one playbook for one app, or for none.
-/

namespace Rollout

/-- The state of playbooks and containers that declare none. -/
def defaultState : String :=
  "running"

structure Action where
  /-- The name of the app, or else of the playbook. -/
  name : String := ""
  dest : String := ""
  play : String := ""
  inventory : String := ""
  user : String := ""
  pythonInterpreter : String := ""
  repository : Option Repository := none
  files : List Customization := []
  containers : List Container := []
  /-- The key to log in with, given when the action is run. -/
  privateKey : String := ""
  inventoryFile : String := ""
  suffix : String := ""
  debug : UInt8 := 0
deriving DecidableEq, Repr, Inhabited

namespace Action

def state (a : Action) : String :=
  ((a.containers.map (·.state)).find? (· ≠ defaultState)).getD defaultState

/-- Whether an action runs for a trigger. One in the default state always runs. -/
def matchesTrigger (a : Action) (trigger : String) : Bool :=
  trigger.isEmpty || a.state = defaultState || Text.endsWith a.name trigger

/-! ## JSON -/

def encode (a : Action) : Json :=
  .object [("name", .string a.name), ("dest", .string a.dest), ("play", .string a.play),
    ("inventory", .string a.inventory), ("user", .string a.user),
    ("pythonInterpreter", .string a.pythonInterpreter),
    ("repository", .ofOption Repository.encode a.repository),
    ("files", .ofList Customization.encode a.files),
    ("containers", .ofList Container.encode a.containers),
    ("privateKey", .string a.privateKey), ("inventoryFile", .string a.inventoryFile),
    ("suffix", .string a.suffix), ("debug", .int a.debug.toNat)]

open Json in
def fields : List (Field Action) :=
  [.text "name" fun a name => { a with name },
    .text "dest" fun a dest => { a with dest },
    .text "play" fun a play => { a with play },
    .text "inventory" fun a inventory => { a with inventory },
    .text "user" fun a user => { a with user },
    .text "pythonInterpreter" fun a pythonInterpreter => { a with pythonInterpreter },
    .optional Repository.decode "repository" fun a repository => { a with repository },
    .list Customization.decode "files" fun a files => { a with files },
    .list Container.decode "containers" fun a containers => { a with containers },
    .text "privateKey" fun a privateKey => { a with privateKey },
    .text "inventoryFile" fun a inventoryFile => { a with inventoryFile },
    .text "suffix" fun a suffix => { a with suffix },
    .of Written.asUInt8 "debug" fun a debug => { a with debug }]

/-- Reads an action. Written as an array, it has to be complete. -/
def decode (value : Json.Written) : Except DecodeError Action := do
  if let .array items := value then
    if items.length < fields.length then throw .mismatch
  value.asRecord fields {}

end Action

end Rollout
