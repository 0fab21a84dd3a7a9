import Rollout.Action.Basic
import Rollout.Backend.Basic
import Rollout.Environment
import Rollout.Scenario.Normalize
import Rollout.Template.Eval

/-!
# Compilation

Makes the actions of a scenario: of each playbook one for each app that it refers to, or one alone if
it refers to none. The first failure ends it.
-/

namespace Rollout

open Text

/-! ## What a playbook refers to -/

/-- The system of a playbook's user. The only one there is serves every user. -/
def resolveOs (oses : List Os) (user : String) : Except ScenarioError Os :=
  match oses with
  | [] => .error (.unknownUser user)
  | [os] => .ok os
  | oses =>
    if user.isEmpty then .error (.ambiguousOs oses.length)
    else
      match oses.find? (·.user = user) with
      | some os => .ok os
      | none => .error (.unknownUser user)

/-- The app of a name, or else the first whose name has it as a part. -/
def appNamed? (apps : List App) (name : String) : Option App :=
  (apps.find? (·.name = name)).or (apps.find? (contains ·.name name))

def nameTemplate : String :=
  "\x7b\x7b." ++ Template.appRoot ++ ".Name\x7d\x7d"

def Scenario.findApp (s : Scenario) (reference : String) : Except ScenarioError App :=
  match Template.tryExpand nameTemplate s.context reference with
  | .error _ => .error (.appNotFound reference)
  | .ok name =>
    if name.isEmpty then .error (.appNotFound reference)
    else
      match appNamed? s.document.apps name with
      | some app => .ok app
      | none => .error (.appNotFound name)

/-! ## Containers -/

/-- The value of the first `--name` flag that has one. A flag stands at the start or behind a blank;
`atStart` says whether the text does. -/
def nameFlag? (atStart : Bool) : List Char → Option (List Char)
  | [] => none
  | c :: cs =>
    let value? : Option (List Char) :=
      if atStart then
        match strip? "--name".toList (c :: cs) with
        | some (b :: rest) =>
          let value := (trimStart rest).takeWhile (!isBlank ·)
          if isBlank b && !value.isEmpty then some value else none
        | _ => none
      else none
    value?.or (nameFlag? (isBlank c) cs)

/-- Gives a container its name and its state. A flag among its parameters names it; otherwise it has
the given name, and a flag that says so. -/
def Container.finalize (c : Container) (name state : String) : Except ScenarioError Container :=
  let state := if c.state.isEmpty then state else c.state
  match nameFlag? true c.params.toList with
  | some flag => .ok { c with name := String.ofList flag, state }
  | none =>
    if name.isEmpty then .error (.missingField (.containerName c.params))
    else .ok { params := "--name " ++ name ++ " " ++ c.params, name, state }

/-- Finalizes a container where it stands: what it is afterwards, also at a failure. -/
def Container.finalizeInPlace (c : Container) (name state : String) :
    Container × Except ScenarioError Unit :=
  let settleState (c : Container) := if c.state.isEmpty then { c with state } else c
  match nameFlag? true c.params.toList with
  | some flag => (settleState { c with name := String.ofList flag }, .ok ())
  | none =>
    if name.isEmpty then (c, .error (.missingField (.containerName c.params)))
    else
      let c := { c with name }
      (settleState { c with params := "--name " ++ name ++ " " ++ c.params }, .ok ())

/-! ## Playbooks -/

def Playbook.withDefaults (p : Playbook) (defaultPlay : String) : Except ScenarioError Playbook :=
  if p.inventory.isEmpty then .error (.missingField (.inventory p.name))
  else if p.containers.isEmpty then .error (.missingField (.containers p.name))
  else
    .ok { p with
      state := if p.state.isEmpty then defaultState else p.state
      play := if p.play.isEmpty then defaultPlay else p.play }

/-- What compilation is for: a backend, and the environment of the parameters. -/
structure Compiler where
  backend : Backend
  env : Environment

namespace Compiler

def renderParams (compiler : Compiler) (s : Scenario) (selector params : String) : String :=
  let masked := compiler.backend.mask params
  let expanded := Template.expand masked s.context selector
  compiler.env.substitute (compiler.backend.unmask expanded)

def renderContainers (compiler : Compiler) (s : Scenario) (p : Playbook) (selector name : String) :
    Except ScenarioError (List Container) :=
  p.containers.mapM fun c =>
    { c with params := compiler.renderParams s selector c.params }.finalize name p.state

def compileApp (compiler : Compiler) (s : Scenario) (p : Playbook) (base : Action)
    (reference : String) : Except ScenarioError Action := do
  let app ← s.findApp reference
  let containers ← compiler.renderContainers s p reference app.name
  return { base with
    name := app.name
    dest := app.dest
    repository := app.repository
    files := app.customizations
    containers }

/-- The action of a playbook without an app. It is named after its first container if the playbook's
name comes to nothing. -/
def compileAlone (compiler : Compiler) (s : Scenario) (p : Playbook) (base : Action) :
    Except ScenarioError Action := do
  let name := Template.expand p.name s.context ""
  let containers ← compiler.renderContainers s p "" name
  let first := (containers.head?.map (·.name)).getD ""
  return { base with name := if name.isEmpty then first else name, containers }

def compilePlaybook (compiler : Compiler) (s : Scenario) (p : Playbook) :
    Except ScenarioError (List Action) := do
  let p ← p.withDefaults compiler.backend.defaultPlay
  let os ← resolveOs s.document.oses p.user
  let base : Action := {
    play := p.play
    inventory := p.inventory
    user := os.user
    pythonInterpreter := os.pythonInterpreter
    suffix := s.suffix }
  if p.apps.isEmpty then
    let action ← compiler.compileAlone s p base
    return [action]
  else p.apps.mapM (compiler.compileApp s p base)

def compile (compiler : Compiler) (s : Scenario) : Except ScenarioError (List Action) := do
  let actions ← s.document.playbooks.mapM (compiler.compilePlaybook s)
  return actions.flatten

end Compiler

end Rollout
