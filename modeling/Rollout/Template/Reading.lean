import Rollout.Template.Segment

/-!
# Reading pipelines

Puts the tokens of an action together in one pass from left to right. Groups that are still open
stand on a stack, each with the pipeline in front of it and the place of its parenthesis.
-/

namespace Rollout.Template

/-- A pipeline that is being read: its complete commands, the operands of the current one, and the
last of these as long as a path may be glued to it. -/
structure Draft where
  commands : Pipeline
  operands : Command
  term : Option Operand

namespace Draft

def empty : Draft :=
  ⟨[], [], none⟩

def command (d : Draft) : Command :=
  d.operands ++ d.term.toList

def push (d : Draft) (term : Operand) : Draft :=
  { d with operands := d.command, term := some term }

def glue? (d : Draft) (path : List String) : Option Draft :=
  d.term.map fun term => { d with operands := d.operands ++ [.chain term path], term := none }

/-- The commands up to the current one, which has to have an operand. -/
def close? (d : Draft) : Option Pipeline :=
  if d.command.isEmpty then none else some (d.commands ++ [d.command])

end Draft

/-- Reads tokens on behind a draft inside the open groups. An action that ends without a value is
reported at byte `last`. -/
def readFrom (last : Nat) (draft : Draft) (groups : List (Draft × Nat)) :
    List Located → Except TemplateError Pipeline
  | [] =>
    match draft.close?, groups with
    | none, _ => .error (.emptyCommand last)
    | some pipeline, [] => .ok pipeline
    | some _, (_, pos) :: _ => .error (.unexpected .endOfAction pos)
  | ⟨token, pos⟩ :: rest =>
    let push (term : Operand) := readFrom last (draft.push term) groups rest
    match token with
    | .dot => push .dot
    | .field path => push (.field path)
    | .int value => push (.int value)
    | .text value => push (.text value)
    | .truth value => push (.truth value)
    | .nothing => push .nothing
    | .ident name =>
      match Builtin.ofName? name with
      | some builtin => push (.function builtin)
      | none => .error (.unknownFunction name)
    | .chain path =>
      match draft.glue? path with
      | some draft => readFrom last draft groups rest
      | none => .error (.unexpected (.token token) pos)
    | .openGroup => readFrom last .empty ((draft, pos) :: groups) rest
    | .closeGroup =>
      match draft.close?, groups with
      | none, _ => .error (.emptyCommand pos)
      | some _, [] => .error (.unexpected (.token token) pos)
      | some pipeline, (outer, _) :: groups =>
        readFrom last (outer.push (.group pipeline)) groups rest
    | .pipe =>
      match draft.close? with
      | none => .error (.emptyCommand pos)
      | some commands => readFrom last ⟨commands, [], none⟩ groups rest

/-- The pipeline of a row of tokens, which belong to an action that starts at byte `start`. -/
def readPipeline (start : Nat) (tokens : List Located) : Except TemplateError Pipeline :=
  readFrom ((tokens.getLast?.map (·.pos)).getD start) .empty [] tokens

def readExpression (source : List Char) : Except TemplateError Pipeline := do
  readPipeline 0 (← tokensOfExpression source)

end Rollout.Template
