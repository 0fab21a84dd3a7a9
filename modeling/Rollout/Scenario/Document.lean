/-!
# Scenario documents

What a scenario declares: the systems it may log in to, its apps, and the playbooks that deploy them.
-/

namespace Rollout

/-- A login that the backend can use. -/
structure Os where
  user : String := ""
  pythonInterpreter : String := ""
deriving DecidableEq, Repr, Inhabited

structure Credentials where
  dbName : String := ""
  username : String := ""
  password : String := ""
deriving DecidableEq, Repr

/-- A source repository that is checked out next to an app. -/
structure Repository where
  branch : String := ""
  sshUrl : String := ""
  sshKey : String := ""
  folder : String := ""
deriving DecidableEq, Repr

/-- A file that is put next to an app. -/
structure Customization where
  src : String := ""
  dest : String := ""
  destFolder : String := ""
  mode : UInt32 := 0
deriving DecidableEq, Repr

structure App where
  name : String := ""
  kind : String := ""
  image : String := ""
  host : String := ""
  ports : List Int64 := []
  /-- Where the app is deployed. -/
  dest : String := ""
  credentials : Option Credentials := none
  customizations : List Customization := []
  repository : Option Repository := none
deriving DecidableEq, Repr, Inhabited

structure Container where
  params : String := ""
  name : String := ""
  state : String := ""
deriving DecidableEq, Repr, Inhabited

/-- A way to deploy: which play runs where, and the containers that it starts. -/
structure Playbook where
  name : String := ""
  play : String := ""
  state : String := ""
  inventory : String := ""
  user : String := ""
  /-- References to apps, such as `{{index .Apps 0}}`. -/
  apps : List String := []
  containers : List Container := []
deriving DecidableEq, Repr

structure Document where
  id : String := ""
  env : String := ""
  description : String := ""
  /-- The folder below which apps without a place of their own are deployed. -/
  dest : String := ""
  oses : List Os := []
  apps : List App := []
  playbooks : List Playbook := []
deriving DecidableEq, Repr

/-- The mark by which a scenario's scratch files are told from others. -/
def Document.suffix (d : Document) : String :=
  d.id ++ "-" ++ d.env

end Rollout
