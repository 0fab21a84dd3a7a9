import Rollout.Template.Pipeline
import Rollout.Template.Token
import Rollout.Template.Value

/-!
# Template errors

Why a template cannot be read, or an action of it cannot be evaluated. Positions count the bytes of
the source.
-/

namespace Rollout.Template

inductive Found where
  | source (text : String)
  | token (token : Token)
  | endOfAction
deriving DecidableEq, Repr

def Found.describe : Found → String
  | .source text => text
  | .token t => t.describe
  | .endOfAction => "end of action"

inductive ArgumentFault where
  | noArgument
  | notOne (given : Nat)
  | noLength (kind : Kind)
  | noFormat (kind : Kind)
deriving DecidableEq, Repr

def ArgumentFault.message : ArgumentFault → String
  | .noArgument => "want at least 1 got 0"
  | .notOne given => s!"want 1 got {given}"
  | .noLength kind => "len of " ++ kind.name
  | .noFormat kind => "format must be a string, got " ++ kind.name

end Rollout.Template

namespace Rollout

inductive TemplateError where
  | unclosedAction (pos : Nat)
  | unclosedComment (pos : Nat)
  | unterminatedString (pos : Nat)
  | unexpected (found : Template.Found) (pos : Nat)
  | emptyCommand (pos : Nat)
  | unknownFunction (name : String)
  | notAFunction (head : Template.Operand)
  | wrongArguments (function : Template.Builtin) (fault : Template.ArgumentFault)
  | missingField (name : String)
  | notARecord (field : String) (kind : Template.Kind)
  | badIndex (target : Template.Kind) (key : Json)
  | outOfRange (index : Int)

def TemplateError.message : TemplateError → String
  | .unclosedAction pos => s!"unclosed action starting at byte {pos}"
  | .unclosedComment pos => s!"unclosed comment starting at byte {pos}"
  | .unterminatedString pos => s!"unterminated string starting at byte {pos}"
  | .unexpected found pos => "unexpected " ++ found.describe ++ s!" at byte {pos}"
  | .emptyCommand pos => s!"missing value for command at byte {pos}"
  | .unknownFunction name => "function \"" ++ name ++ "\" not defined"
  | .notAFunction head => "can't give argument to non-function " ++ head.form
  | .wrongArguments function fault =>
    "wrong arguments for " ++ function.name ++ ": " ++ fault.message
  | .missingField name => "can't evaluate field " ++ name
  | .notARecord field kind => "can't evaluate field " ++ field ++ " in " ++ kind.name
  | .badIndex target key => "can't index " ++ target.name ++ " with " ++ Template.render key
  | .outOfRange index => s!"index out of range: {index}"

end Rollout
