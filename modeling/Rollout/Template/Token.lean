import Rollout.Text.Quoted

/-!
# Tokens of an action

The words of the language between `{{` and `}}`, each with the byte at which it starts, and the names
by which error messages call them.
-/

namespace Rollout.Template

inductive Token where
  /-- `.` alone: the value that the template is rendered against. -/
  | dot
  /-- `.A.B`: a path from that value. -/
  | field (path : List String)
  /-- `.A.B` right behind a closing parenthesis: a path from the value of the group. -/
  | chain (path : List String)
  | ident (name : String)
  | int (value : Int)
  | text (value : String)
  | truth (value : Bool)
  | nothing
  | openGroup
  | closeGroup
  | pipe
deriving DecidableEq, Repr

def Token.describe : Token → String
  | .dot => "\".\""
  | .field path | .chain path => "field ." ++ ".".intercalate path
  | .ident name => "identifier " ++ name
  | .int value => "number " ++ toString value
  | .text value => "string " ++ Text.quoted value
  | .truth value => "bool " ++ (if value then "true" else "false")
  | .nothing => "nil"
  | .openGroup => "\"(\""
  | .closeGroup => "\")\""
  | .pipe => "\"|\""

/-- A token and the byte of the source at which it starts. -/
structure Located where
  token : Token
  pos : Nat
deriving DecidableEq, Repr

end Rollout.Template
