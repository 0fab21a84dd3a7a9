import Rollout.Text.Search

/-!
# Environment variables

Replaces each `$NAME` in a text by the variable's value, or by nothing if it is not set. A name is as
long as it can be: upper-case letters, digits and underscores, with no digit in front. Values are not
looked into.
-/

namespace Rollout

structure Environment where
  entries : List (String × String)
deriving Repr

namespace Environment

open Text

def get? (env : Environment) (name : String) : Option String :=
  env.entries.lookup name

/-- The environment of entries `NAME=value`. -/
def ofEntries (entries : List String) : Environment :=
  ⟨entries.filterMap fun entry =>
    (cut? ['='] entry.toList).map fun (name, value) => (String.ofList name, String.ofList value)⟩

def set (env : Environment) (name value : String) : Environment :=
  ⟨(name, value) :: env.entries.filter (·.1 ≠ name)⟩

def isNameStart (c : Char) : Bool :=
  c.isUpper || c = '_'

def isNameChar (c : Char) : Bool :=
  c.isUpper || c.isDigit || c = '_'

def reference? : List Char → Option (List Char)
  | '$' :: c :: cs => if isNameStart c then some (c :: cs.takeWhile isNameChar) else none
  | _ => none

def resolve (env : Environment) (s : List Char) : Option Replacement :=
  (reference? s).map fun name =>
    ⟨name.length + 1, ((env.get? (String.ofList name)).getD "").toList⟩

def substitute (env : Environment) (s : String) : String :=
  String.ofList (replaceMatches env.resolve s.toList)

theorem get?_set (env : Environment) (name value : String) :
    (env.set name value).get? name = some value := by
  simp [get?, set]

end Environment

end Rollout
