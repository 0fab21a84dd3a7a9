import Rollout.Text.Quoted

/-!
# Pipelines

What an action asks for: commands separated by `|`, each a row of operands. The value of a command
becomes the last argument of the next one. A row may be empty here; the reader never makes an empty
one.
-/

namespace Rollout.Template

inductive Builtin where
  | index
  | len
  | print
  | printf
deriving DecidableEq, Repr

def Builtin.name : Builtin → String
  | .index => "index"
  | .len => "len"
  | .print => "print"
  | .printf => "printf"

def Builtin.ofName? : String → Option Builtin
  | "index" => some .index
  | "len" => some .len
  | "print" => some .print
  | "printf" => some .printf
  | _ => none

theorem Builtin.ofName?_eq_some_iff {name : String} {b : Builtin} :
    Builtin.ofName? name = some b ↔ name = b.name := by
  constructor
  · intro h
    unfold ofName? at h
    split at h <;> cases h <;> rfl
  · rintro rfl
    cases b <;> rfl

inductive Operand where
  | dot
  | field (path : List String)
  | chain (base : Operand) (path : List String)
  | group (commands : List (List Operand))
  | function (builtin : Builtin)
  | int (value : Int)
  | text (value : String)
  | truth (value : Bool)
  | nothing
deriving Inhabited

abbrev Command := List Operand

abbrev Pipeline := List Command

/-! ## Equality -/

mutual

def Operand.same : Operand → Operand → Bool
  | .dot, .dot => true
  | .field p, .field q => p = q
  | .chain a p, .chain b q => a.same b && p = q
  | .group p, .group q => Pipeline.same p q
  | .function f, .function g => f = g
  | .int m, .int n => m = n
  | .text s, .text t => s = t
  | .truth b, .truth c => b = c
  | .nothing, .nothing => true
  | _, _ => false

def Command.same : List Operand → List Operand → Bool
  | [], [] => true
  | a :: as, b :: bs => a.same b && Command.same as bs
  | _, _ => false

def Pipeline.same : List (List Operand) → List (List Operand) → Bool
  | [], [] => true
  | c :: cs, d :: ds => Command.same c d && Pipeline.same cs ds
  | _, _ => false

end

mutual

theorem Operand.same_iff (a b : Operand) : a.same b = true ↔ a = b := by
  cases a with
  | chain a p =>
    cases b with
    | chain b q => simp [Operand.same, Operand.same_iff a b]
    | _ => simp [Operand.same]
  | group p =>
    cases b with
    | group q => simp [Operand.same, Pipeline.same_iff p q]
    | _ => simp [Operand.same]
  | _ => cases b <;> simp [Operand.same]

theorem Command.same_iff (as bs : List Operand) : Command.same as bs = true ↔ as = bs := by
  match as, bs with
  | [], [] => simp [Command.same]
  | [], _ :: _ => simp [Command.same]
  | _ :: _, [] => simp [Command.same]
  | a :: as, b :: bs => simp [Command.same, Operand.same_iff a b, Command.same_iff as bs]

theorem Pipeline.same_iff (cs ds : List (List Operand)) : Pipeline.same cs ds = true ↔ cs = ds := by
  match cs, ds with
  | [], [] => simp [Pipeline.same]
  | [], _ :: _ => simp [Pipeline.same]
  | _ :: _, [] => simp [Pipeline.same]
  | c :: cs, d :: ds => simp [Pipeline.same, Command.same_iff c d, Pipeline.same_iff cs ds]

end

instance : DecidableEq Operand :=
  fun a b => decidable_of_iff _ (Operand.same_iff a b)

/-! ## Form in error messages -/

def listed (parts : List String) : String :=
  ", ".intercalate parts

def pathForm (path : List String) : String :=
  "[" ++ listed (path.map Text.quoted) ++ "]"

mutual

/-- The form of an operand in an error message, which shows how it was read. -/
def Operand.form : Operand → String
  | .dot => "Dot"
  | .field path => "Field(" ++ pathForm path ++ ")"
  | .chain base path => "Chain(" ++ base.form ++ ", " ++ pathForm path ++ ")"
  | .group commands =>
    "Paren(Pipeline \x7b commands: [" ++ listed (Pipeline.forms commands) ++ "] \x7d)"
  | .function builtin => "Func(" ++ Text.quoted builtin.name ++ ")"
  | .int value => "Int(" ++ toString value ++ ")"
  | .text value => "Str(" ++ Text.quoted value ++ ")"
  | .truth value => "Bool(" ++ (if value then "true" else "false") ++ ")"
  | .nothing => "Nil"

def Command.forms : List Operand → List String
  | [] => []
  | operand :: rest => operand.form :: Command.forms rest

def Pipeline.forms : List (List Operand) → List String
  | [] => []
  | command :: rest =>
    ("Command \x7b args: [" ++ listed (Command.forms command) ++ "] \x7d") :: Pipeline.forms rest

end

end Rollout.Template
