import Rollout.Template.Builtin
import Rollout.Template.Scope

/-!
# Evaluation

The value of a pipeline for the value that the template is rendered against, and the text that a
template becomes. An action that fails stops a strict expansion and adds nothing to a lenient one.
-/

namespace Rollout

namespace Template

def fieldOf (value : Json) (name : String) : Except TemplateError Json :=
  match value with
  | .object members =>
    match lookup? members name with
    | some member => .ok member
    | none => .error (.missingField name)
  | other => .error (.notARecord name (.of other))

def walk (value : Json) : List String → Except TemplateError Json
  | [] => .ok value
  | name :: path => do walk (← fieldOf value name) path

mutual

def Operand.eval (root : Json) : Operand → Except TemplateError Json
  | .dot => .ok root
  | .field path => walk root path
  | .chain base path => do walk (← base.eval root) path
  | .group commands => Pipeline.eval root none commands
  | .function builtin => builtin.call []
  | .int value => .ok (.int value)
  | .text value => .ok (.string value)
  | .truth value => .ok (.bool value)
  | .nothing => .ok .null

def Operand.evalAll (root : Json) : List Operand → Except TemplateError (List Json)
  | [] => .ok []
  | operand :: rest => do
    let value ← operand.eval root
    let values ← Operand.evalAll root rest
    .ok (value :: values)

/-- The value of a command; what is piped into it is the last argument of its function. -/
def Command.eval (root : Json) (piped : Option Json) : List Operand → Except TemplateError Json
  | [] => .error (.emptyCommand 0)
  | .function builtin :: rest => do
    let args ← Operand.evalAll root rest
    builtin.call (args ++ piped.toList)
  | head :: rest =>
    if rest.isEmpty && piped.isNone then head.eval root else .error (.notAFunction head)

/-- The value of the last of a row of commands, each piped into the next. -/
def Pipeline.eval (root : Json) (piped : Option Json) :
    List (List Operand) → Except TemplateError Json
  | [] => .ok (piped.getD .null)
  | command :: rest => do
    let value ← Command.eval root piped command
    Pipeline.eval root (some value) rest

end

theorem Command.eval_operand {root : Json} {piped : Option Json} {head : Operand}
    {rest : List Operand} (h : ∀ b, head ≠ .function b) :
    Command.eval root piped (head :: rest) =
      if rest.isEmpty && piped.isNone then head.eval root else .error (.notAFunction head) := by
  cases head with
  | function b => exact absurd rfl (h b)
  | _ => rfl

theorem Command.eval_function (root : Json) (piped : Option Json) (b : Builtin)
    (rest : List Operand) :
    Command.eval root piped (.function b :: rest) =
      (do b.call ((← Operand.evalAll root rest) ++ piped.toList)) :=
  rfl

def Node.render (root : Json) : Node → Except TemplateError String
  | .text value => .ok value
  | .action pipeline => Template.render <$> Pipeline.eval root none pipeline

def renderAll (root : Json) : List Node → Except TemplateError String
  | [] => .ok ""
  | node :: rest => do
    let text ← node.render root
    let texts ← renderAll root rest
    .ok (text ++ texts)

def renderPresent (root : Json) : List Node → String
  | [] => ""
  | node :: rest =>
    match node.render root with
    | .ok text => text ++ renderPresent root rest
    | .error _ => renderPresent root rest

end Template

def Template.tryExpand (source : String) (root : Json) (selector : String) :
    Except TemplateError String := do
  let template ← Template.parseIn source selector
  Template.renderAll root template.nodes

/-- Expands a source in the scope of a selector. Actions that fail add nothing, and a source that
cannot be read is expanded to nothing. -/
def Template.expand (source : String) (root : Json) (selector : String) : String :=
  match Template.parseIn source selector with
  | .ok template => Template.renderPresent root template.nodes
  | .error _ => ""

end Rollout
