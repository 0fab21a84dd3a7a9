import Rollout.Template.Reading

/-!
# Templates

A template is a row of literal texts and actions.
-/

namespace Rollout

namespace Template

inductive Node where
  | text (value : String)
  | action (pipeline : Pipeline)
deriving DecidableEq

def nodesOfSegments : List Segment → Except TemplateError (List Node)
  | [] => .ok []
  | .text value :: rest => do
    let nodes ← nodesOfSegments rest
    .ok (.text value :: nodes)
  | .action tokens pos :: rest => do
    let pipeline ← readPipeline pos tokens
    let nodes ← nodesOfSegments rest
    .ok (.action pipeline :: nodes)

end Template

structure Template where
  nodes : List Template.Node
deriving DecidableEq

def Template.parse (source : String) : Except TemplateError Template := do
  let segments ← Template.segments source.toList
  let nodes ← Template.nodesOfSegments segments
  .ok ⟨nodes⟩

end Rollout
