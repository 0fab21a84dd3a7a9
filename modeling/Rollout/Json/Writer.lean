import Rollout.Json.Decimal

/-!
# Writing JSON

The text of a value, with its members in the order in which they are kept: on one line without
blanks, or over several lines with an indentation of two blanks.
-/

namespace Rollout.Json

def escapeChar (c : Char) : List Char :=
  match c with
  | '"' => ['\\', '"']
  | '\\' => ['\\', '\\']
  | '\n' => ['\\', 'n']
  | '\r' => ['\\', 'r']
  | '\t' => ['\\', 't']
  | '\x08' => ['\\', 'b']
  | '\x0c' => ['\\', 'f']
  | c =>
    if c.toNat < 0x20 then
      ['\\', 'u', '0', '0', Nat.digitChar (c.toNat / 16), Nat.digitChar (c.toNat % 16)]
    else [c]

def stringText (s : String) : List Char :=
  '"' :: s.toList.flatMap escapeChar ++ ['"']

def commaSeparated : List (List Char) → List Char
  | [] => []
  | [s] => s
  | s :: rest => s ++ ',' :: commaSeparated rest

mutual

def compactChars : Json → List Char
  | .null => "null".toList
  | .bool b => (if b then "true" else "false").toList
  | .number n => n.text.toList
  | .string s => stringText s
  | .array items => '[' :: commaSeparated (compactItems items) ++ [']']
  | .object members => '\x7b' :: commaSeparated (compactMembers members) ++ ['\x7d']

def compactItems : List Json → List (List Char)
  | [] => []
  | item :: rest => item.compactChars :: compactItems rest

def compactMembers : List (String × Json) → List (List Char)
  | [] => []
  | (key, value) :: rest => (stringText key ++ ':' :: value.compactChars) :: compactMembers rest

end

def compact (value : Json) : String :=
  String.ofList value.compactChars

/-! ## Several lines -/

/-- Brackets around parts that stand on lines of their own; nothing between them if there are none. -/
def block (start stop : Char) (depth : Nat) : List (List Char) → List Char
  | [] => [start, stop]
  | parts =>
    let margin (n : Nat) := '\n' :: List.replicate (2 * n) ' '
    start :: commaSeparated (parts.map (margin (depth + 1) ++ ·)) ++ margin depth ++ [stop]

mutual

def prettyChars (depth : Nat) : Json → List Char
  | .array items => block '[' ']' depth (prettyItems depth items)
  | .object members => block '\x7b' '\x7d' depth (prettyMembers depth members)
  | .null => "null".toList
  | .bool b => (if b then "true" else "false").toList
  | .number n => n.text.toList
  | .string s => stringText s

def prettyItems (depth : Nat) : List Json → List (List Char)
  | [] => []
  | item :: rest => item.prettyChars (depth + 1) :: prettyItems depth rest

def prettyMembers (depth : Nat) : List (String × Json) → List (List Char)
  | [] => []
  | (key, value) :: rest =>
    (stringText key ++ ':' :: ' ' :: value.prettyChars (depth + 1)) :: prettyMembers depth rest

end

def pretty (value : Json) : String :=
  String.ofList (value.prettyChars 0)

end Rollout.Json
