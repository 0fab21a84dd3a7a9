import Rollout.Json.Reader
import Rollout.Json.Record
import Rollout.Scenario.Document

/-!
# Documents from JSON

The fields of the records of a document. Only the containers of a playbook go by a second name.
-/

namespace Rollout

open Json

def Os.fields : List (Field Os) :=
  [.text "user" fun os user => { os with user },
    .text "pythonInterpreter" fun os pythonInterpreter => { os with pythonInterpreter }]

def Os.decode (value : Written) : Except DecodeError Os :=
  value.asRecord Os.fields {}

def Credentials.fields : List (Field Credentials) :=
  [.text "dbName" fun c dbName => { c with dbName },
    .text "username" fun c username => { c with username },
    .text "password" fun c password => { c with password }]

def Credentials.decode (value : Written) : Except DecodeError Credentials :=
  value.asRecord Credentials.fields {}

def Repository.fields : List (Field Repository) :=
  [.text "branch" fun r branch => { r with branch },
    .text "sshUrl" fun r sshUrl => { r with sshUrl },
    .text "sshKey" fun r sshKey => { r with sshKey },
    .text "folder" fun r folder => { r with folder }]

def Repository.decode (value : Written) : Except DecodeError Repository :=
  value.asRecord Repository.fields {}

def Customization.fields : List (Field Customization) :=
  [.text "src" fun c src => { c with src },
    .text "dest" fun c dest => { c with dest },
    .text "destFolder" fun c destFolder => { c with destFolder },
    .of Written.asUInt32 "mode" fun c mode => { c with mode }]

def Customization.decode (value : Written) : Except DecodeError Customization :=
  value.asRecord Customization.fields {}

def App.fields : List (Field App) :=
  [.text "name" fun app name => { app with name },
    .text "type" fun app kind => { app with kind },
    .text "image" fun app image => { app with image },
    .text "host" fun app host => { app with host },
    .list Written.asInt64 "ports" fun app ports => { app with ports },
    .text "dest" fun app dest => { app with dest },
    .optional Credentials.decode "cred" fun app credentials => { app with credentials },
    .list Customization.decode "customizations" fun app customizations =>
      { app with customizations },
    .optional Repository.decode "repository" fun app repository => { app with repository }]

def App.decode (value : Written) : Except DecodeError App :=
  value.asRecord App.fields {}

def Container.fields : List (Field Container) :=
  [.text "params" fun c params => { c with params },
    .text "name" fun c name => { c with name },
    .text "state" fun c state => { c with state }]

def Container.decode (value : Written) : Except DecodeError Container :=
  value.asRecord Container.fields {}

def Playbook.fields : List (Field Playbook) :=
  [.text "name" fun p name => { p with name },
    .text "play" fun p play => { p with play },
    .text "state" fun p state => { p with state },
    .text "inventory" fun p inventory => { p with inventory },
    .text "user" fun p user => { p with user },
    .list Written.asText "apps" fun p apps => { p with apps },
    .alsoNamed "actions" <|
      .list Container.decode "containers" fun p containers => { p with containers }]

def Playbook.decode (value : Written) : Except DecodeError Playbook :=
  value.asRecord Playbook.fields {}

def Document.fields : List (Field Document) :=
  [.text "id" fun d id => { d with id },
    .text "env" fun d env => { d with env },
    .text "description" fun d description => { d with description },
    .text "dest" fun d dest => { d with dest },
    .list Os.decode "oses" fun d oses => { d with oses },
    .list App.decode "apps" fun d apps => { d with apps },
    .list Playbook.decode "playbooks" fun d playbooks => { d with playbooks }]

def Document.decode (value : Written) : Except DecodeError Document :=
  value.asRecord Document.fields {}

/-! ## Documents from text -/

inductive ReadError where
  /-- It is not one JSON value, or a value in it cannot be held. -/
  | syntaxError
  /-- It is one that is no document. -/
  | dataError
deriving DecidableEq, Repr

/-- An array with more elements than fields counts as going on behind its end. -/
def DecodeError.readError : DecodeError → ReadError
  | .mismatch | .repeated => .dataError
  | .surplus | .unreadable => .syntaxError

/-- Reads a document. What follows it is looked at last. -/
def Document.read (text : String) : Except ReadError Document :=
  let (value, rest) := Written.read text
  match Document.decode value with
  | .ok document => if rest.isEmpty then .ok document else .error .syntaxError
  | .error e => .error e.readError

end Rollout
