import Rollout.Json.Basic
import Rollout.Json.Record
import Rollout.Scenario.Document

/-!
# Documents as JSON

Writes every field of every record, in the order of declaration.
-/

namespace Rollout

def Os.encode (os : Os) : Json :=
  .object [("user", .string os.user), ("pythonInterpreter", .string os.pythonInterpreter)]

def Credentials.encode (c : Credentials) : Json :=
  .object [("dbName", .string c.dbName), ("username", .string c.username),
    ("password", .string c.password)]

def Repository.encode (r : Repository) : Json :=
  .object [("branch", .string r.branch), ("sshUrl", .string r.sshUrl),
    ("sshKey", .string r.sshKey), ("folder", .string r.folder)]

def Customization.encode (c : Customization) : Json :=
  .object [("src", .string c.src), ("dest", .string c.dest),
    ("destFolder", .string c.destFolder), ("mode", .int c.mode.toNat)]

def App.encode (app : App) : Json :=
  .object [("name", .string app.name), ("type", .string app.kind), ("image", .string app.image),
    ("host", .string app.host), ("ports", .ofList (.int ·.toInt) app.ports),
    ("dest", .string app.dest), ("cred", .ofOption Credentials.encode app.credentials),
    ("customizations", .ofList Customization.encode app.customizations),
    ("repository", .ofOption Repository.encode app.repository)]

def Container.encode (c : Container) : Json :=
  .object [("params", .string c.params), ("name", .string c.name), ("state", .string c.state)]

def Playbook.encode (p : Playbook) : Json :=
  .object [("name", .string p.name), ("play", .string p.play), ("state", .string p.state),
    ("inventory", .string p.inventory), ("user", .string p.user),
    ("apps", .ofList .string p.apps), ("containers", .ofList Container.encode p.containers)]

def Document.members (d : Document) : List (String × Json) :=
  [("id", .string d.id), ("env", .string d.env), ("description", .string d.description),
    ("dest", .string d.dest), ("oses", .ofList Os.encode d.oses),
    ("apps", .ofList App.encode d.apps), ("playbooks", .ofList Playbook.encode d.playbooks)]

def Document.encode (d : Document) : Json :=
  .object d.members

end Rollout
