/-!
# Searching and replacing text

Cutting a text at the first occurrence of a pattern, and replacing all leftmost matches of a rule in
one pass. A rule looks at the text from some character on and answers how many characters it takes and
what stands for them; the scan resumes behind them, in the text and not in the answer.
-/

namespace Rollout.Text

/-! ## Length in bytes -/

def byteLength : List Char → Nat
  | [] => 0
  | c :: cs => c.utf8Size + byteLength cs

theorem byteLength_append (s t : List Char) :
    byteLength (s ++ t) = byteLength s + byteLength t := by
  induction s with
  | nil => simp [byteLength]
  | cons c cs ih => simp [byteLength, ih, Nat.add_assoc]

/-! ## Patterns -/

/-- The text behind a pattern that it starts with. -/
def strip? : (pattern s : List Char) → Option (List Char)
  | [], s => some s
  | _ :: _, [] => none
  | p :: ps, c :: cs => if p = c then strip? ps cs else none

theorem strip?_eq_some_iff {p s r : List Char} : strip? p s = some r ↔ s = p ++ r := by
  induction p generalizing s with
  | nil => simp [strip?]
  | cons a p ih =>
    cases s with
    | nil => simp [strip?]
    | cons c cs =>
      by_cases h : a = c
      · simp [strip?, h, ih]
      · simp [strip?, h, Ne.symm h]

/-- The text before and behind the first occurrence of a pattern that is not empty. -/
def cut? (pattern : List Char) : List Char → Option (List Char × List Char)
  | [] => none
  | c :: cs =>
    match strip? pattern (c :: cs) with
    | some rest => some ([], rest)
    | none => (cut? pattern cs).map fun (before, rest) => (c :: before, rest)

theorem eq_of_cut? {p s before rest : List Char} (h : cut? p s = some (before, rest)) :
    s = before ++ p ++ rest := by
  induction s generalizing before with
  | nil => simp [cut?] at h
  | cons c cs ih =>
    unfold cut? at h
    split at h
    · rename_i r hr
      simp only [Option.some.injEq, Prod.mk.injEq] at h
      obtain ⟨rfl, rfl⟩ := h
      simpa using strip?_eq_some_iff.1 hr
    · obtain ⟨⟨b, r⟩, hb, he⟩ := Option.map_eq_some_iff.1 h
      simp only [Prod.mk.injEq] at he
      obtain ⟨rfl, rfl⟩ := he
      simp [ih hb]

def occurs (pattern s : List Char) : Bool :=
  (cut? pattern s).isSome

/-! ## Replacing -/

/-- What a rule makes of the start of a text: how many characters it takes, and their replacement. -/
structure Replacement where
  taken : Nat
  text : List Char

/-- Replaces the leftmost matches of a rule behind the first `skip` characters, which are dropped. -/
def replaceMatchesFrom (rule : List Char → Option Replacement) : (skip : Nat) → List Char → List Char
  | _, [] => []
  | skip + 1, _ :: cs => replaceMatchesFrom rule skip cs
  | 0, c :: cs =>
    match rule (c :: cs) with
    | some found => found.text ++ replaceMatchesFrom rule (found.taken - 1) cs
    | none => c :: replaceMatchesFrom rule 0 cs

/-- Replaces the leftmost matches of a rule that takes at least one character where it applies. -/
def replaceMatches (rule : List Char → Option Replacement) (s : List Char) : List Char :=
  replaceMatchesFrom rule 0 s

theorem replaceMatchesFrom_eq (rule : List Char → Option Replacement) (skip : Nat) (s : List Char) :
    replaceMatchesFrom rule skip s = replaceMatches rule (s.drop skip) := by
  induction s generalizing skip with
  | nil => simp [replaceMatches, replaceMatchesFrom]
  | cons c cs ih =>
    cases skip with
    | zero => rfl
    | succ n => simpa [replaceMatchesFrom] using ih n

/-- Replaces the leftmost occurrences of a pattern that is not empty. -/
def replaceAll (pattern replacement s : List Char) : List Char :=
  replaceMatches (fun t => (strip? pattern t).map fun _ => ⟨pattern.length, replacement⟩) s

/-! ## Strings -/

def startsWith (s start : String) : Bool :=
  start.toList.isPrefixOf s.toList

def endsWith (s ending : String) : Bool :=
  ending.toList.isSuffixOf s.toList

def contains (s part : String) : Bool :=
  part.isEmpty || occurs part.toList s.toList

def trimSlashes (s : String) : String :=
  String.ofList (s.toList.reverse.dropWhile (· = '/')).reverse

/-- The part of a path before its last slash, empty if there is none. -/
def folderOf (s : String) : String :=
  String.ofList ((s.toList.reverse.dropWhile (· ≠ '/')).drop 1).reverse

theorem startsWith_iff {s start : String} :
    startsWith s start = true ↔ start.toList <+: s.toList := by
  simp [startsWith]

theorem endsWith_iff {s ending : String} :
    endsWith s ending = true ↔ ending.toList <:+ s.toList := by
  simp [endsWith]

end Rollout.Text
