import Rollout.Placeholder

/-!
# Backends

What compilation has to know of the program that runs the actions.
-/

namespace Rollout

inductive Backend where
  | ansible
deriving DecidableEq, Repr

namespace Backend

def name : Backend → String
  | .ansible => "ansible"

/-- The backend of a name, in whatever case its ASCII letters are. -/
def ofName? (name : String) : Option Backend :=
  if name.toList.map Char.toLower = "ansible".toList then some .ansible else none

/-- The play of playbooks that name none. -/
def defaultPlay : Backend → String
  | .ansible => "rigger.yml"

def program : Backend → String
  | .ansible => "ansible-playbook"

def mask : Backend → String → String
  | .ansible => Placeholder.mask

def unmask : Backend → String → String
  | .ansible => Placeholder.unmask

end Backend

end Rollout
