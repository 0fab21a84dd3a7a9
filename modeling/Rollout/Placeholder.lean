import Rollout.Text.Blank
import Rollout.Text.Search

/-!
# Placeholders of the backend

The backend reads templates of its own, between the same delimiters. What starts with
`{{ ansible_` is meant for it: it is masked before a scenario's templates are expanded and comes back
afterwards. The mask keeps the blanks. A text that looks like a mask already is marked, so that only
masks come back.
-/

namespace Rollout.Placeholder

open Text

def sentinel : List Char :=
  "@ANSIBLE".toList

/-- The mark behind a sentinel that was there before. -/
def escapeMark : Char :=
  '~'

def opening : List Char :=
  "\x7b\x7b".toList

def namespaceMark : List Char :=
  "ansible_".toList

def escape (s : List Char) : List Char :=
  replaceAll sentinel (sentinel ++ [escapeMark]) s

def hide (s : List Char) : Option Replacement := do
  let inner ← strip? opening s
  let blanks := inner.takeWhile isBlank
  let _ ← strip? namespaceMark (inner.dropWhile isBlank)
  some ⟨opening.length + blanks.length + namespaceMark.length, sentinel ++ blanks ++ ['.']⟩

def reveal (s : List Char) : Option Replacement := do
  let rest ← strip? sentinel s
  match strip? [escapeMark] rest with
  | some _ => some ⟨sentinel.length + 1, sentinel⟩
  | none =>
    let blanks := rest.takeWhile isBlank
    let _ ← strip? ['.'] (rest.dropWhile isBlank)
    some ⟨sentinel.length + blanks.length + 1, opening ++ blanks ++ namespaceMark⟩

def maskChars (s : List Char) : List Char :=
  replaceMatches hide (escape s)

def unmaskChars (s : List Char) : List Char :=
  replaceMatches reveal s

def mask (s : String) : String :=
  String.ofList (maskChars s.toList)

def unmask (s : String) : String :=
  String.ofList (unmaskChars s.toList)

end Rollout.Placeholder
