/-!
# Scenario errors

Why a scenario cannot be normalized or compiled.
-/

namespace Rollout

inductive RequiredField where
  | dest
  | inventory (playbook : String)
  | containers (playbook : String)
  | containerName (params : String)
deriving DecidableEq, Repr

def RequiredField.describe : RequiredField → String
  | .dest => "dest"
  | .inventory playbook => s!"inventory for playbook '{playbook}'"
  | .containers playbook => s!"containers for playbook '{playbook}'"
  | .containerName params => s!"container name for params '{params}'"

inductive ScenarioError where
  | missingField (field : RequiredField)
  | unknownUser (user : String)
  /-- No user is given to choose one of several systems. -/
  | ambiguousOs (count : Nat)
  /-- The name that was looked for, or the reference that gives none. -/
  | appNotFound (name : String)
  | invalidRepository (url : String)
  | downloadFailed (url reason : String)
deriving DecidableEq, Repr

def ScenarioError.message : ScenarioError → String
  | .missingField field => "missing required field: " ++ field.describe
  | .unknownUser user => s!"unknown os for user '{user}'"
  | .ambiguousOs count =>
    s!"unknown os for user 'no user given to choose between {count} oses'"
  | .appNotFound name => "app not found: " ++ name
  | .invalidRepository url => "invalid repository: " ++ url
  | .downloadFailed url reason => s!"download of {url} failed: {reason}"

inductive ErrorClass where
  /-- A field is not given. -/
  | configuration
  /-- Something that is referred to is not there. -/
  | resolution
  /-- A value is not well formed. -/
  | validation
  /-- Something outside failed. -/
  | outside
deriving DecidableEq, Repr

def ScenarioError.errorClass : ScenarioError → ErrorClass
  | .missingField _ => .configuration
  | .unknownUser _ | .ambiguousOs _ | .appNotFound _ => .resolution
  | .invalidRepository _ => .validation
  | .downloadFailed _ _ => .outside

end Rollout
