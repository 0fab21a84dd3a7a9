import Rollout.Environment
import Rollout.Proofs.Text.Matching

/-!
# Texts with variables

A text is a row of literals and of references to variables. Substitution gives it back with a value in
the place of each reference: names are as long as they can be, and values are not looked into
(`substitute_pieces`). So only the variables that are referred to matter.
-/

namespace Rollout.Environment

open Text

/-! ## Names -/

def NameStart (c : Char) : Prop :=
  'A' ≤ c ∧ c ≤ 'Z' ∨ c = '_'

def NamePart (c : Char) : Prop :=
  NameStart c ∨ '0' ≤ c ∧ c ≤ '9'

instance : DecidablePred NameStart := fun c =>
  inferInstanceAs (Decidable ('A' ≤ c ∧ c ≤ 'Z' ∨ c = '_'))

instance : DecidablePred NamePart := fun c =>
  inferInstanceAs (Decidable (NameStart c ∨ '0' ≤ c ∧ c ≤ '9'))

theorem isUpper_iff {c : Char} : c.isUpper = true ↔ 'A' ≤ c ∧ c ≤ 'Z' :=
  decide_eq_true_iff

theorem isNameStart_iff {c : Char} : isNameStart c = true ↔ NameStart c := by
  simp [isNameStart, NameStart, isUpper_iff]

theorem isNameChar_iff {c : Char} : isNameChar c = true ↔ NamePart c := by
  simp [isNameChar, NamePart, NameStart, isUpper_iff, Char.isDigit, Char.le_def]
  tauto

def IsName : List Char → Prop
  | [] => False
  | c :: cs => NameStart c ∧ ∀ d ∈ cs, NamePart d

instance : DecidablePred IsName
  | [] => isFalse id
  | c :: cs =>
    have : Decidable (∀ d ∈ cs, NamePart d) := List.decidableBAll NamePart cs
    inferInstanceAs (Decidable (NameStart c ∧ ∀ d ∈ cs, NamePart d))

/-! ## Pieces -/

inductive Piece where
  | literal (text : List Char)
  | reference (name : List Char)

namespace Piece

def source : Piece → List Char
  | .literal text => text
  | .reference name => '$' :: name

/-- What stands for a piece in an environment. -/
def value (env : Environment) : Piece → List Char
  | .literal text => text
  | .reference name => ((env.get? (String.ofList name)).getD "").toList

/-- Whether a piece is all that it seems before the text behind it: no name starts in a literal, and that
of a reference goes on no further. -/
inductive Stands (behind : List Char) : Piece → Prop where
  | literal {text} : text.IsChain (fun a b => ¬ (a = '$' ∧ NameStart b)) →
      (text.getLast? = some '$' → ∀ c ∈ behind.head?, ¬ NameStart c) → Stands behind (.literal text)
  | reference {name} : IsName name → (∀ c ∈ behind.head?, ¬ NamePart c) →
      Stands behind (.reference name)

end Piece

def source (pieces : List Piece) : List Char :=
  pieces.flatMap Piece.source

inductive Divided : List Piece → Prop where
  | nil : Divided []
  | cons {piece pieces} : piece.Stands (source pieces) → Divided pieces → Divided (piece :: pieces)

/-! ## References in a text -/

variable {env : Environment} {name behind s : List Char}

theorem reference?_of_name (hn : IsName name) (hb : ∀ c ∈ behind.head?, ¬ NamePart c) :
    reference? ('$' :: name ++ behind) = some name := by
  cases name with
  | nil => exact hn.elim
  | cons c cs =>
    have part : ∀ d ∈ cs, isNameChar d = true := fun d hd => isNameChar_iff.2 (hn.2 d hd)
    have taken := (takeWhile_append_of_all part fun c hc => by
      rw [← Bool.not_eq_true, isNameChar_iff]
      exact hb c hc).1
    rw [List.cons_append, List.cons_append, reference?, if_pos (isNameStart_iff.2 hn.1), taken]

theorem reference?_eq_none_iff {c : Char} :
    reference? (c :: s) = none ↔ (c = '$' → ∀ d ∈ s.head?, ¬ NameStart d) := by
  by_cases hc : c = '$'
  · subst hc
    cases s with
    | nil => simp [reference?]
    | cons d s => simp [reference?, ← isNameStart_iff]
  · have hn : reference? (c :: s) = none := by
      unfold reference?
      split
      · rename_i he
        exact absurd (List.cons.inj he).1 hc
      · rfl
    exact iff_of_true hn fun he => absurd he hc

theorem eq_of_reference? (h : reference? s = some name) :
    IsName name ∧ ∃ behind, s = '$' :: name ++ behind ∧ ∀ c ∈ behind.head?, ¬ NamePart c := by
  unfold reference? at h
  split at h
  · rename_i c cs
    rw [Option.ite_none_right_eq_some] at h
    obtain ⟨hc, hn⟩ := h
    cases hn
    refine ⟨⟨isNameStart_iff.1 hc, fun d hd => isNameChar_iff.1 (List.mem_takeWhile_imp hd)⟩,
      cs.dropWhile isNameChar, ?_, fun d hd => ?_⟩
    · rw [List.cons_append, List.cons_append, List.takeWhile_append_dropWhile]
    · have last := List.head?_dropWhile_not isNameChar cs
      rw [Option.mem_def.1 hd] at last
      rw [← isNameChar_iff, Bool.not_eq_true]
      simpa using last
  · cases h

/-! ## Substitution -/

theorem replaceMatches_reference (env : Environment) (hn : IsName name)
    (hb : ∀ c ∈ behind.head?, ¬ NamePart c) :
    replaceMatches env.resolve ('$' :: name ++ behind) =
      (Piece.reference name).value env ++ replaceMatches env.resolve behind := by
  have found : env.resolve ('$' :: name ++ behind) =
      some ⟨name.length + 1, (Piece.reference name).value env⟩ := by
    rw [resolve, reference?_of_name hn hb]
    rfl
  exact replaceMatches_some (List.cons_ne_nil _ _) found rfl

theorem replaceMatches_literal (env : Environment) {text : List Char}
    (plain : text.IsChain fun a b => ¬ (a = '$' ∧ NameStart b))
    (last : text.getLast? = some '$' → ∀ c ∈ behind.head?, ¬ NameStart c) :
    replaceMatches env.resolve (text ++ behind) = text ++ replaceMatches env.resolve behind := by
  induction text with
  | nil => rfl
  | cons c text ih =>
    have next : c = '$' → ∀ d ∈ (text ++ behind).head?, ¬ NameStart d := by
      rintro rfl
      cases text with
      | nil => exact last rfl
      | cons a text =>
        rintro d ⟨⟩ hd
        exact (List.isChain_cons_cons.1 plain).1 ⟨rfl, hd⟩
    have none : env.resolve (c :: (text ++ behind)) = none := by
      rw [resolve, reference?_eq_none_iff.2 next, Option.map_none]
    have behind_text : text.getLast? = some '$' → ∀ c ∈ behind.head?, ¬ NameStart c := by
      intro h
      cases text with
      | nil => cases h
      | cons a text => exact last (by rwa [List.getLast?_cons_cons])
    rw [List.cons_append, replaceMatches_cons_none none, ih plain.of_cons behind_text, List.cons_append]

theorem replaceMatches_source {pieces : List Piece} (h : Divided pieces) (env : Environment) :
    replaceMatches env.resolve (source pieces) = pieces.flatMap (·.value env) := by
  induction h with
  | nil => rfl
  | @cons piece pieces stands _ ih =>
    rw [source, List.flatMap_cons, List.flatMap_cons, ← ih]
    cases stands with
    | literal plain last => exact replaceMatches_literal env plain last
    | reference hn hb => exact replaceMatches_reference env hn hb

/-- Every text can be divided, into the references in it and the characters between them. -/
theorem exists_divided (s : List Char) : ∃ pieces, Divided pieces ∧ source pieces = s := by
  induction hl : s.length using Nat.strongRecOn generalizing s with
  | ind n ih =>
    cases s with
    | nil => exact ⟨[], .nil, rfl⟩
    | cons c s =>
      cases hr : reference? (c :: s) with
      | some name =>
        obtain ⟨hn, behind, he, hb⟩ := eq_of_reference? hr
        have shorter : behind.length < n := by
          rw [← hl, he, List.length_append, List.length_cons]
          omega
        obtain ⟨pieces, hd, rfl⟩ := ih behind.length shorter behind rfl
        exact ⟨.reference name :: pieces, .cons (.reference hn hb) hd, he.symm⟩
      | none =>
        have shorter : s.length < n := by
          rw [← hl, List.length_cons]
          omega
        obtain ⟨pieces, hd, rfl⟩ := ih s.length shorter s rfl
        refine ⟨.literal [c] :: pieces, .cons (.literal (.singleton c) ?_) hd, rfl⟩
        intro last
        exact reference?_eq_none_iff.1 hr (Option.some.inj last)

/-- Every text can be divided into literals and references, and however it is, substitution keeps the
literals and puts values for the references. So environments in which the variables that are referred to
have the same values give the same text. -/
theorem substitute_pieces :
    (∀ s : String, ∃ pieces, Divided pieces ∧ String.ofList (source pieces) = s) ∧
    ∀ pieces, Divided pieces → ∀ env : Environment,
      env.substitute (String.ofList (source pieces)) = String.ofList (pieces.flatMap (·.value env)) ∧
      ∀ other : Environment,
        (∀ name, .reference name ∈ pieces →
          other.get? (String.ofList name) = env.get? (String.ofList name)) →
        other.substitute (String.ofList (source pieces)) =
          env.substitute (String.ofList (source pieces)) := by
  have substituted {pieces : List Piece} (h : Divided pieces) (env : Environment) :
      env.substitute (String.ofList (source pieces)) =
        String.ofList (pieces.flatMap (·.value env)) := by
    rw [substitute, String.toList_ofList, replaceMatches_source h]
  refine ⟨fun s => ?_, fun pieces h env => ⟨substituted h env, fun other agree => ?_⟩⟩
  · obtain ⟨pieces, hd, hs⟩ := exists_divided s.toList
    exact ⟨pieces, hd, by rw [hs, String.ofList_toList]⟩
  · rw [substituted h other, substituted h env]
    have same : ∀ piece ∈ pieces, piece.value other = piece.value env := by
      intro piece hm
      cases piece with
      | literal text => rfl
      | reference name => rw [Piece.value, agree name hm, Piece.value]
    rw [List.flatMap_congr same]

/-- A value that looks like a reference, names that go on in one another, and dollars of no reference. -/
theorem substitute_pieces_ports :
    let env : Environment := ⟨[("P", "$PORT"), ("PORT", "80$1")]⟩
    let pieces : List Piece := [.literal "-p $".toList, .reference "P".toList, .literal ":".toList,
      .reference "PORT".toList, .reference "_Q1".toList, .literal " ${P} $p $1 $".toList]
    Divided pieces ∧ String.ofList (source pieces) = "-p $$P:$PORT$_Q1 ${P} $p $1 $" ∧
      env.substitute "-p $$P:$PORT$_Q1 ${P} $p $1 $" = "-p $$PORT:80$1 ${P} $p $1 $" := by
  intro env pieces
  have before {p : Char → Prop} {c : Char} {cs : List Char} (h : p c) : ∀ d ∈ (c :: cs).head?, p d := by
    rintro d ⟨⟩
    exact h
  have divided : Divided pieces := by
    refine .cons (.literal (by decide) fun _ => before (c := '$') (by decide)) <|
      .cons (.reference (by decide) (before (c := ':') (by decide))) <|
      .cons (.literal (by decide) fun _ => before (c := '$') (by decide)) <|
      .cons (.reference (by decide) (before (c := '$') (by decide))) <|
      .cons (.reference (by decide) (before (c := ' ') (by decide))) <|
      .cons (.literal (by decide) fun _ => nofun) .nil
  have text : String.ofList (source pieces) = "-p $$P:$PORT$_Q1 ${P} $p $1 $" := by decide
  refine ⟨divided, text, ?_⟩
  rw [← text, (substitute_pieces.2 pieces divided env).1]
  decide

end Rollout.Environment
