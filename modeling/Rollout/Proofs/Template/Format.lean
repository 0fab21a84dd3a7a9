import Rollout.Template.Builtin

/-!
# Formats

A format is a row of literals, in which each percent sign is written twice, and of verbs. Formatting
gives the literals back and puts the texts of the arguments for the verbs, the first for the first, and
looks at none of these texts again (`printf_pieces`).
-/

namespace Rollout.Template

/-! ## Characters -/

theorem formatted_append {x : List Char} (h : '%' ∉ x) (s : List Char) (args : List Json) :
    formatted (x ++ s) args = x ++ formatted s args := by
  induction x with
  | nil => rfl
  | cons c x ih =>
    rw [List.mem_cons, not_or] at h
    rw [List.cons_append, formatted, ih h.2, List.cons_append]
    · exact fun he _ => h.1 he.symm
    · exact fun _ _ he _ => h.1 he.symm

theorem formatted_verb (c : Char) (rest : List Char) (args : List Json) :
    formatted ('%' :: c :: rest) args =
      if c = '%' then '%' :: formatted rest args
      else if isVerb c then
        match args with
        | arg :: args => (render arg).toList ++ formatted rest args
        | [] => "%!".toList ++ c :: "(MISSING)".toList ++ formatted rest []
      else '%' :: c :: formatted rest args :=
  rfl

namespace Format

/-! ## Pieces -/

inductive Verb where
  | s
  | d
  | v

def Verb.letter : Verb → Char
  | .s => 's'
  | .d => 'd'
  | .v => 'v'

inductive Piece where
  | literal (text : List Char)
  | verb (kind : Verb)

/-- A text as a format has it, with each percent sign twice. -/
def doubled (text : List Char) : List Char :=
  text.flatMap fun c => if c = '%' then ['%', '%'] else [c]

def Piece.source : Piece → List Char
  | .literal text => doubled text
  | .verb kind => ['%', kind.letter]

def source (pieces : List Piece) : List Char :=
  pieces.flatMap Piece.source

def Piece.isVerb : Piece → Bool
  | .literal _ => false
  | .verb _ => true

def verbs (pieces : List Piece) : Nat :=
  pieces.countP Piece.isVerb

@[simp] theorem verbs_nil : verbs [] = 0 :=
  rfl

@[simp] theorem verbs_literal (text : List Char) (pieces : List Piece) :
    verbs (.literal text :: pieces) = verbs pieces :=
  List.countP_cons_of_neg Bool.false_ne_true

@[simp] theorem verbs_verb (kind : Verb) (pieces : List Piece) :
    verbs (.verb kind :: pieces) = verbs pieces + 1 :=
  List.countP_cons_of_pos rfl

/-- What stands for a piece behind `k` verbs. -/
def Piece.value (args : List Json) (k : Nat) : Piece → List Char
  | .literal text => text
  | .verb kind =>
    match args[k]? with
    | some arg => (render arg).toList
    | none => "%!".toList ++ kind.letter :: "(MISSING)".toList

def values (args : List Json) (pieces : List Piece) : List Char :=
  (pieces.mapIdx fun i piece => piece.value args (verbs (pieces.take i))).flatten

/-! ## Arguments in step with verbs -/

variable (args : List Json) (pieces : List Piece)

theorem Piece.value_succ (k : Nat) (piece : Piece) :
    piece.value args (k + 1) = piece.value args.tail k := by
  cases piece with
  | literal text => rfl
  | verb kind => rw [value, value, List.getElem?_tail]

theorem values_literal (text : List Char) :
    values args (.literal text :: pieces) = text ++ values args pieces := by
  simp [values, List.mapIdx_cons, Piece.value]

theorem values_verb (kind : Verb) :
    values args (.verb kind :: pieces) =
      (Piece.verb kind).value args 0 ++ values args.tail pieces := by
  simp [values, List.mapIdx_cons, Piece.value_succ]

/-! ## Formatting -/

theorem formatted_doubled (text rest : List Char) :
    formatted (doubled text ++ rest) args = text ++ formatted rest args := by
  induction text with
  | nil => rfl
  | cons c text ih =>
    rw [doubled, List.flatMap_cons, ← doubled, List.append_assoc]
    by_cases hc : c = '%'
    · subst hc
      rw [if_pos rfl, List.cons_append, List.singleton_append, formatted_verb, if_pos rfl, ih]
      rfl
    · rw [if_neg hc, formatted_append (by simpa using Ne.symm hc), ih]
      rfl

theorem formatted_letter (kind : Verb) (rest : List Char) :
    formatted ('%' :: kind.letter :: rest) args =
      (Piece.verb kind).value args 0 ++ formatted rest args.tail := by
  cases kind <;> cases args <;> simp [formatted_verb, Verb.letter, isVerb, Piece.value]

theorem formatted_source : formatted (source pieces) args = values args pieces := by
  induction pieces generalizing args with
  | nil => rfl
  | cons piece pieces ih =>
    rw [source, List.flatMap_cons, ← source]
    cases piece with
    | literal text => rw [values_literal, Piece.source, formatted_doubled, ih]
    | verb kind =>
      rw [values_verb, ← ih, ← formatted_letter]
      rfl

theorem values_take : values (args.take (verbs pieces)) pieces = values args pieces := by
  induction pieces generalizing args with
  | nil => rfl
  | cons piece pieces ih =>
    cases piece with
    | literal text => rw [verbs_literal, values_literal, values_literal, ih]
    | verb kind =>
      cases args with
      | nil => rw [List.take_nil]
      | cons arg args =>
        rw [verbs_verb, List.take_succ_cons, values_verb, values_verb, List.tail_cons, List.tail_cons, ih]
        rfl

end Format

open Format

/-- The literals are given back, and each verb takes the argument with its own number or is reported as
missing one. Arguments beyond the verbs do not matter. -/
theorem printf_pieces (pieces : List Piece) (args : List Json) :
    let format := Json.string (String.ofList (source pieces))
    Builtin.printf.call (format :: args) = .ok (.string (String.ofList (values args pieces))) ∧
      Builtin.printf.call (format :: args) =
        Builtin.printf.call (format :: args.take (verbs pieces)) := by
  intro format
  have formats (args : List Json) : Builtin.printf.call (format :: args) =
      .ok (.string (String.ofList (values args pieces))) := by
    rw [Builtin.call, String.toList_ofList, formatted_source]
  exact ⟨formats args, by rw [formats, formats, values_take]⟩

/-- Percent signs in a literal and in an argument, and a verb without an argument. -/
example : Builtin.printf.call [.string "%s%%d-%v", .string "5%d%%"] =
    .ok (.string "5%d%%%d-%!v(MISSING)") := by
  rfl

end Rollout.Template
