import Rollout.Template.Error
import Rollout.Text.Blank
import Rollout.Text.Letter
import Rollout.Text.Search

/-!
# Scanning one token

Reads one token off the start of a text and answers with the text behind it, which is a proper suffix
of what was read (`scanToken_suffix`).
-/

namespace Rollout.Template

open Text

/-! ## Words -/

def isIdentStart (c : Char) : Bool :=
  isAlphabetic c || c = '_'

def isIdentChar (c : Char) : Bool :=
  isAlphabetic c || isNumeric c || c = '_'

/-- The names of a path `.A.B` behind the first `skip` characters, none if no dot with a name stands
there, and the text behind the path. -/
def scanPathFrom : (skip : Nat) → List Char → List String × List Char
  | skip + 1, _ :: cs => scanPathFrom skip cs
  | 0, '.' :: c :: cs =>
    if isIdentStart c then
      let word := cs.takeWhile isIdentChar
      let (path, rest) := scanPathFrom word.length cs
      (String.ofList (c :: word) :: path, rest)
    else ([], '.' :: c :: cs)
  | _, s => ([], s)

def scanPath (s : List Char) : List String × List Char :=
  scanPathFrom 0 s

/-- The characters of a quoted text behind its opening quote, and what follows its closing quote. A
backslash takes its special meaning from the character behind it, but makes a line feed of `n` and a
tab of `t`. -/
def scanQuoted : List Char → Option (List Char × List Char)
  | [] => none
  | '"' :: rest => some ([], rest)
  | ['\\'] => none
  | '\\' :: c :: rest =>
    let c := if c = 'n' then '\n' else if c = 't' then '\t' else c
    (scanQuoted rest).map fun (chars, rest) => (c :: chars, rest)
  | c :: rest => (scanQuoted rest).map fun (chars, rest) => (c :: chars, rest)

def int64OfDigits? (negative : Bool) (digits : List Char) : Option Int :=
  let n : Int := digitsValue digits
  let n := if negative then -n else n
  if isInt64 n then some n else none

def wordToken (word : String) : Token :=
  if word = "true" then .truth true
  else if word = "false" then .truth false
  else if word = "nil" then .nothing
  else .ident word

/-! ## One token -/

/-- The number whose digits start a text; its sign stands before them. -/
def scanInt (pos : Nat) (negative : Bool) (s : List Char) :
    Except TemplateError (Token × List Char) :=
  let digits := s.takeWhile Char.isDigit
  if digits.isEmpty then .error (.unexpected (.source "-") pos)
  else
    match int64OfDigits? negative digits with
    | some value => .ok (.int value, s.dropWhile Char.isDigit)
    | none =>
      let sign := if negative then ['-'] else []
      .error (.unexpected (.source (String.ofList (sign ++ digits))) pos)

/-- The token at the start of a text, which is byte `pos` of the source. `glued` says whether it is
right behind a closing parenthesis. -/
def scanToken (pos : Nat) (glued : Bool) :
    List Char → Except TemplateError (Token × List Char)
  | [] => .error (.unexpected .endOfAction pos)
  | '(' :: rest => .ok (.openGroup, rest)
  | ')' :: rest => .ok (.closeGroup, rest)
  | '|' :: rest => .ok (.pipe, rest)
  | '"' :: rest =>
    match scanQuoted rest with
    | some (chars, rest) => .ok (.text (String.ofList chars), rest)
    | none => .error (.unterminatedString pos)
  | '\x60' :: rest =>
    match cut? ['\x60'] rest with
    | some (chars, rest) => .ok (.text (String.ofList chars), rest)
    | none => .error (.unterminatedString pos)
  | '-' :: rest => scanInt pos true rest
  | '.' :: rest =>
    match scanPath ('.' :: rest) with
    | ([], _) => .ok (.dot, rest)
    | (path, rest) => .ok (if glued then .chain path else .field path, rest)
  | c :: rest =>
    if c.isDigit then scanInt pos false (c :: rest)
    else if isIdentStart c then
      .ok (wordToken (String.ofList (c :: rest.takeWhile isIdentChar)),
        rest.dropWhile isIdentChar)
    else .error (.unexpected (.source (String.singleton c)) pos)

/-! ## What is left -/

theorem scanPathFrom_eq (skip : Nat) (s : List Char) :
    scanPathFrom skip s = scanPath (s.drop skip) := by
  induction s generalizing skip with
  | nil => cases skip <;> rfl
  | cons c cs ih =>
    cases skip with
    | zero => rfl
    | succ n => simpa [scanPathFrom] using ih n

theorem drop_length_takeWhile {α : Type} (p : α → Bool) (s : List α) :
    s.drop (s.takeWhile p).length = s.dropWhile p := by
  induction s with
  | nil => rfl
  | cons a s ih => by_cases h : p a <;> simp [h, ih]

theorem scanPath_name {c : Char} (h : isIdentStart c = true) (cs : List Char) :
    scanPath ('.' :: c :: cs) =
      (String.ofList (c :: cs.takeWhile isIdentChar) :: (scanPath (cs.dropWhile isIdentChar)).1,
        (scanPath (cs.dropWhile isIdentChar)).2) := by
  rw [scanPath, scanPathFrom, if_pos h]
  simp only [scanPathFrom_eq, drop_length_takeWhile]

theorem scanPathFrom_suffix (skip : Nat) (s : List Char) : (scanPathFrom skip s).2 <:+ s := by
  fun_induction scanPathFrom skip s with
  | case1 skip c cs ih => exact ih.trans (List.suffix_cons c cs)
  | case2 c cs _ word path rest h ih =>
    rw [h] at ih
    exact ih.trans ((List.suffix_cons c cs).trans (List.suffix_cons '.' _))
  | case3 => exact List.suffix_rfl
  | case4 => exact List.suffix_rfl

theorem scanPath_suffix_tail {cs rest : List Char} {path : List String}
    (h : scanPath ('.' :: cs) = (path, rest)) (hp : path ≠ []) : rest <:+ cs := by
  match cs with
  | [] =>
    cases h
    exact absurd rfl hp
  | c :: cs =>
    by_cases hc : isIdentStart c = true
    · rw [scanPath_name hc] at h
      cases h
      exact ((scanPathFrom_suffix 0 _).trans (List.dropWhile_suffix _)).trans (List.suffix_cons c cs)
    · rw [scanPath, scanPathFrom, if_neg hc] at h
      cases h
      exact absurd rfl hp

theorem scanQuoted_suffix {s chars rest : List Char} (h : scanQuoted s = some (chars, rest)) :
    rest <:+ s := by
  fun_induction scanQuoted s generalizing chars rest with
  | case1 => simp at h
  | case2 s => simp_all [List.suffix_cons]
  | case3 => simp at h
  | case4 =>
    rename_i c s _ ih
    obtain ⟨⟨chars', rest'⟩, h', he⟩ := Option.map_eq_some_iff.1 h
    simp only [Prod.mk.injEq] at he
    obtain ⟨-, rfl⟩ := he
    exact (ih h').trans ((List.suffix_cons c s).trans (List.suffix_cons _ _))
  | case5 c s _ _ _ ih =>
    obtain ⟨⟨chars', rest'⟩, h', he⟩ := Option.map_eq_some_iff.1 h
    simp only [Prod.mk.injEq] at he
    obtain ⟨-, rfl⟩ := he
    exact (ih h').trans (List.suffix_cons c s)

theorem cut?_suffix {p s before rest : List Char} (h : cut? p s = some (before, rest)) :
    rest <:+ s :=
  ⟨before ++ p, (eq_of_cut? h).symm⟩

theorem cut?_suffix_tail {p cs before rest : List Char} {c : Char} (hp : p ≠ [])
    (h : cut? p (c :: cs) = some (before, rest)) : rest <:+ cs := by
  rcases List.suffix_cons_iff.1 (cut?_suffix h) with rfl | hs
  · have := congrArg List.length (eq_of_cut? h)
    have := List.length_pos_iff.2 hp
    simp only [List.length_append] at *
    omega
  · exact hs

theorem strip?_suffix {p s rest : List Char} (h : strip? p s = some rest) : rest <:+ s :=
  ⟨p, (strip?_eq_some_iff.1 h).symm⟩

theorem scanInt_rest {pos : Nat} {negative : Bool} {s rest : List Char} {token : Token}
    (h : scanInt pos negative s = .ok (token, rest)) : rest = s.dropWhile Char.isDigit := by
  unfold scanInt at h
  simp only at h
  split at h
  · cases h
  · split at h <;> cases h
    rfl

/-- What is left behind a token of a text is left of what follows the text's first character. -/
theorem scanToken_suffix {pos : Nat} {glued : Bool} {c : Char} {cs rest : List Char} {token : Token}
    (h : scanToken pos glued (c :: cs) = .ok (token, rest)) : rest <:+ cs := by
  unfold scanToken at h
  split at h <;> rename_i hc
  · cases hc
  all_goals cases hc
  · cases h; exact List.suffix_rfl
  · cases h; exact List.suffix_rfl
  · cases h; exact List.suffix_rfl
  · split at h
    · rename_i hq
      cases h
      exact scanQuoted_suffix hq
    · cases h
  · split at h
    · rename_i hq
      cases h
      exact cut?_suffix hq
    · cases h
  · rw [scanInt_rest h]
    exact List.dropWhile_suffix _
  · split at h
    · cases h; exact List.suffix_rfl
    · rename_i hne hp
      cases h
      exact scanPath_suffix_tail hp hne
  · split at h
    · rename_i hd
      rw [scanInt_rest h, List.dropWhile_cons_of_pos hd]
      exact List.dropWhile_suffix _
    · split at h
      · cases h; exact List.dropWhile_suffix _
      · cases h

end Rollout.Template
