import Rollout.Json.Writer
import Rollout.Text.Lowercase

/-!
# Values in templates

How a template names the kinds of value, looks into them and writes them out.
-/

namespace Rollout.Template

inductive Kind where
  | nil
  | bool
  | number
  | string
  | sequence
  | record
deriving DecidableEq, Repr

def Kind.name : Kind → String
  | .nil => "nil"
  | .bool => "bool"
  | .number => "number"
  | .string => "string"
  | .sequence => "sequence"
  | .record => "record"

def Kind.of : Json → Kind
  | .null => .nil
  | .bool _ => .bool
  | .number _ => .number
  | .string _ => .string
  | .array _ => .sequence
  | .object _ => .record

/-! ## Output -/

def spaced (parts : List String) : String :=
  " ".intercalate parts

mutual

/-- The text of a value in the output: a string as it is, nothing for null, a record as JSON. -/
def render : Json → String
  | .null => ""
  | .bool value => if value then "true" else "false"
  | .number value => value.text
  | .string value => value
  | .array items => "[" ++ spaced (renderItems items) ++ "]"
  | .object members => (Json.object members).compact

def renderItems : List Json → List String
  | [] => []
  | item :: rest => render item :: renderItems rest

end

/-! ## Fields -/

/-- A field's name with its first letter in lower case, the way a document spells it. -/
def documentKey (name : String) : String :=
  String.ofList (Text.lowerFirst name.toList)

/-- The member of a record under a name, or else under the document's spelling of it. -/
def lookup? (members : List (String × Json)) (name : String) : Option Json :=
  (members.lookup name).or (members.lookup (documentKey name))

end Rollout.Template
