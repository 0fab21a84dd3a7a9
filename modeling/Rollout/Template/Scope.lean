import Rollout.Template.Basic

/-!
# Scopes

A reference such as `{{index .Apps 2}}` selects one app. A template that is expanded for it calls
this app `.App`: every path that starts with this name is led through the selector, as an operand and
not as text, so that `index .App.Ports 0` becomes `index (index .Apps 2).Ports 0`.
-/

namespace Rollout

namespace Template

def appRoot : String :=
  "App"

/-- A selector without its delimiters, which become parentheses. -/
def groupDelimiters (selector : List Char) : List Char :=
  let replace (pattern : String) (mark : Char) := Text.replaceAll pattern.toList [mark]
  replace "\x7d\x7d" ')' <| replace "\x7b\x7b" '(' <|
    replace " -\x7d\x7d" ')' <| replace "\x7b\x7b- " '(' selector

/-- The operand that a pipeline is, a group unless it is a single operand already. -/
def Pipeline.operand : Pipeline → Operand
  | [[operand]] => operand
  | pipeline => .group pipeline

def readSelector (selector : String) : Except TemplateError Operand := do
  let pipeline ← readExpression (groupDelimiters selector.toList)
  .ok (Pipeline.operand pipeline)

def redirectPath (scope : Operand) : List String → Operand
  | [] => .field []
  | root :: path =>
    if root = appRoot then if path.isEmpty then scope else .chain scope path
    else .field (root :: path)

mutual

def Operand.redirect (scope : Operand) : Operand → Operand
  | .field path => redirectPath scope path
  | .chain base path => .chain (Operand.redirect scope base) path
  | .group commands => .group (Pipeline.redirect scope commands)
  | operand => operand

def Command.redirect (scope : Operand) : List Operand → List Operand
  | [] => []
  | operand :: rest => Operand.redirect scope operand :: Command.redirect scope rest

def Pipeline.redirect (scope : Operand) : List (List Operand) → List (List Operand)
  | [] => []
  | command :: rest => Command.redirect scope command :: Pipeline.redirect scope rest

end

def Node.redirect (scope : Operand) : Node → Node
  | .text value => .text value
  | .action pipeline => .action (Pipeline.redirect scope pipeline)

end Template

def Template.scoped (template : Template) (selector : String) : Except TemplateError Template := do
  let scope ← Template.readSelector selector
  .ok ⟨template.nodes.map (Template.Node.redirect scope)⟩

/-- Reads a template in the scope of a selector, or in none if the selector is empty. -/
def Template.parseIn (source selector : String) : Except TemplateError Template := do
  let template ← Template.parse source
  if selector.isEmpty then .ok template else template.scoped selector

end Rollout
