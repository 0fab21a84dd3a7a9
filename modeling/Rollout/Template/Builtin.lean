import Rollout.Template.Error

/-!
# Functions

What the functions of templates answer for the values of their arguments.
-/

namespace Rollout.Template

/-! ## Selection and size -/

/-- The part of a value under one key: an item of a sequence by its position, a member of a record by
its name, null if it has none. -/
def indexOne (target key : Json) : Except TemplateError Json :=
  match target, key with
  | .array items, .number n =>
    let i := (Json.int64? (.number n)).getD (-1)
    if i < 0 then .error (.outOfRange i)
    else
      match items[i.toNat]? with
      | some item => .ok item
      | none => .error (.outOfRange i)
  | .object members, .string name => .ok ((members.lookup name).getD .null)
  | target, key => .error (.badIndex (.of target) key)

def indexAll (target : Json) : List Json → Except TemplateError Json
  | [] => .ok target
  | key :: keys => do indexAll (← indexOne target key) keys

/-- The size of a value: of a text in bytes. -/
def size : Json → Except TemplateError Json
  | .string s => .ok (.int s.utf8ByteSize)
  | .array items => .ok (.int items.length)
  | .object members => .ok (.int members.length)
  | other => .error (.wrongArguments .len (.noLength (.of other)))

/-! ## Text -/

/-- The texts of values in a row, with a blank between two of which neither is a string. -/
def concatenated : List Json → String
  | [] => ""
  | [value] => render value
  | first :: second :: rest =>
    let gap := if first.isString || second.isString then "" else " "
    render first ++ gap ++ concatenated (second :: rest)

def isVerb (c : Char) : Bool :=
  c = 's' || c = 'd' || c = 'v'

/-- A format with its verbs replaced by the texts of the arguments in their order. -/
def formatted : List Char → List Json → List Char
  | [], _ => []
  | ['%'], _ => ['%']
  | '%' :: c :: rest, args =>
    if c = '%' then '%' :: formatted rest args
    else if isVerb c then
      match args with
      | arg :: args => (render arg).toList ++ formatted rest args
      | [] => "%!".toList ++ c :: "(MISSING)".toList ++ formatted rest []
    else '%' :: c :: formatted rest args
  | c :: rest, args => c :: formatted rest args

/-! ## Calls -/

def Builtin.call : Builtin → List Json → Except TemplateError Json
  | .index, target :: keys => indexAll target keys
  | .index, [] => .error (.wrongArguments .index .noArgument)
  | .len, [value] => size value
  | .len, args => .error (.wrongArguments .len (.notOne args.length))
  | .print, args => .ok (.string (concatenated args))
  | .printf, .string format :: args =>
    .ok (.string (String.ofList (formatted format.toList args)))
  | .printf, other :: _ => .error (.wrongArguments .printf (.noFormat (.of other)))
  | .printf, [] => .error (.wrongArguments .printf .noArgument)

end Rollout.Template
