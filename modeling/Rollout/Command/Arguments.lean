import Rollout.Backend.Basic
import Rollout.Environment
import Rollout.Text.Digits
import Rollout.Text.Search

/-!
# Command line

`rigger [--debug N] exec|compile|validate [options]`. Options are long, each may be given once, and
its value stands behind it or behind an equals sign.
-/

namespace Rollout

structure ScenarioOptions where
  config : String
  backend : Backend
deriving DecidableEq, Repr

structure ExecOptions extends ScenarioOptions where
  gitKey : String
  privateKey : String
  trigger : String
  inventory : String
  playbookPath : String
deriving DecidableEq, Repr

inductive Command where
  | exec (options : ExecOptions) (debug : UInt8)
  | compile (options : ScenarioOptions)
  | validate (options : ScenarioOptions)
deriving DecidableEq, Repr

namespace Command

open Text

def config : Command → String
  | .exec options _ => options.config
  | .compile options | .validate options => options.config

/-! ## Options -/

abbrev Given := List (String × String)

/-- The name of a long option, and the value behind an equals sign if there is one. -/
def longOption? (arg : String) : Option (String × Option String) :=
  match strip? "--".toList arg.toList with
  | none | some [] => none
  | some body =>
    match cut? ['='] body with
    | some (name, value) => some (String.ofList name, some (String.ofList value))
    | none => some (String.ofList body, none)

/-- Whether an argument is an option rather than a value. -/
def isFlag (arg : String) : Bool :=
  startsWith arg "-" && arg ≠ "-"

/-- The options at the start of a row of arguments, and the arguments from the first value on that
belongs to none. -/
def scanOptions? (known : List String) : List String → Option (Given × List String)
  | [] => some ([], [])
  | arg :: rest =>
    match longOption? arg, rest with
    | none, _ => if isFlag arg && arg ≠ "--" then none else some ([], arg :: rest)
    | some (name, some value), rest => do
      guard (known.contains name)
      let (given, rest) ← scanOptions? known rest
      some ((name, value) :: given, rest)
    | some (name, none), value :: rest => do
      guard (known.contains name && !isFlag value)
      let (given, rest) ← scanOptions? known rest
      some ((name, value) :: given, rest)
    | some (_, none), [] => none

/-- The options among arguments that are nothing but options, each given once. -/
def readOptions? (known : List String) (args : List String) : Option Given := do
  let (given, rest) ← scanOptions? known args
  guard ((rest = [] || rest = ["--"]) && (given.map (·.1)).Nodup)
  some given

def valueOr (default name : String) (given : Given) : String :=
  (given.lookup name).getD default

/-! ## Values -/

def signedNumber? (s : String) : Option Int :=
  let digits? (cs : List Char) : Option Nat :=
    if cs ≠ [] && cs.all Char.isDigit then some (digitsValue cs) else none
  match s.toList with
  | '-' :: cs => (digits? cs).map fun n => -(n : Int)
  | '+' :: cs => (digits? cs).map fun n => (n : Int)
  | cs => (digits? cs).map fun n => (n : Int)

def debugLevel? (s : String) : Option UInt8 := do
  let n ← signedNumber? s
  if 0 ≤ n ∧ n ≤ 3 then some (.ofNat n.toNat) else none

/-- The variable that names the backend where no option does. -/
def backendVariable : String :=
  "RIGGER_BACKEND"

/-- The configuration file and the backend; `default` is the backend where neither an option nor the
environment names one. -/
def scenarioOptions? (env : Environment) (default : Option Backend) (given : Given) :
    Option ScenarioOptions := do
  let config := valueOr "./config.json" "config" given
  guard (!config.isEmpty)
  let backend ←
    match (given.lookup "backend").or (env.get? backendVariable) with
    | some name => Backend.ofName? name
    | none => default
  some { config, backend }

def execOptions? (env : Environment) (given : Given) : Option ExecOptions := do
  let options ← scenarioOptions? env none given
  some { options with
    gitKey := valueOr "~/.ssh/id_rsa" "git-key" given
    privateKey := valueOr "" "private-key" given
    trigger := valueOr "" "trigger" given
    inventory := valueOr "./hosts/local" "inventory" given
    playbookPath := valueOr "" "playbook-path" given }

/-! ## Commands -/

/-- The command that a row of arguments asks for, none if they are not used the right way. The level
of detail may be given before or behind the command's name; behind it counts. -/
def ofArguments? (env : Environment) (args : List String) : Option Command := do
  let (before, rest) ← scanOptions? ["debug"] args
  guard (before.map (·.1)).Nodup
  let _ ← debugLevel? (valueOr "0" "debug" before)
  match rest with
  | [] => none
  | name :: args =>
    let common := ["debug", "config", "backend"]
    let level (given : Given) := debugLevel? (valueOr (valueOr "0" "debug" before) "debug" given)
    if name = "exec" then do
      let given ← readOptions?
        (common ++ ["git-key", "private-key", "trigger", "inventory", "playbook-path"]) args
      some (.exec (← execOptions? env given) (← level given))
    else if name = "compile" || name = "validate" then do
      let given ← readOptions? common args
      let _ ← level given
      let options ← scenarioOptions? env (some .ansible) given
      some (if name = "compile" then .compile options else .validate options)
    else none

end Command

end Rollout
