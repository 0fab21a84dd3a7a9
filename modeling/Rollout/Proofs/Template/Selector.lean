import Rollout.Proofs.Template.Grammar
import Rollout.Proofs.Template.Locality

/-!
# Selectors

A selector is an expression whose delimiters are read as parentheses: what is said here of expressions is
said of what stands between them.
-/

namespace Rollout.Template

open Text

/-! ## Expressions -/

theorem tokenized_of_tokensOfExpression {s : List Char} {located : List Located}
    (h : tokensOfExpression s = .ok located) : Tokenized false s (located.map (·.token)) none := by
  obtain ⟨⟨tokens, closing⟩, ht, h⟩ := bind_eq_ok.1 h
  match closing with
  | none =>
    cases h
    exact tokenized_of_tokenize ht
  | some ⟨_, false⟩ | some ⟨_, true⟩ => cases h

theorem tokensOfExpression_of_tokenized {s : List Char} {tokens : List Token}
    (h : Tokenized false s tokens none) :
    ∃ located, tokensOfExpression s = .ok located ∧ located.map (·.token) = tokens := by
  obtain ⟨located, hl, ht⟩ := tokenize_of_tokenized h (byteLength s)
  exact ⟨located, bind_eq_ok.2 ⟨_, hl, rfl⟩, ht⟩

theorem readExpression_iff {s : List Char} {pipeline : Pipeline} :
    readExpression s = .ok pipeline ↔
      ∃ tokens, Tokenized false s tokens none ∧ TokensRead tokens pipeline := by
  constructor
  · intro h
    obtain ⟨located, hl, h⟩ := bind_eq_ok.1 h
    exact ⟨_, tokenized_of_tokensOfExpression hl, readPipeline_iff.1 h⟩
  · rintro ⟨tokens, ht, hr⟩
    obtain ⟨located, hl, rfl⟩ := tokensOfExpression_of_tokenized ht
    exact bind_eq_ok.2 ⟨located, hl, readPipeline_iff.2 hr⟩

/-! ## An expression in parentheses -/

theorem AlikeAhead.closeGroup (rest next : List Char) : AlikeAhead (rest ++ ')' :: next) rest := by
  have h : AlikeAhead (')' :: next) [] := ⟨rfl, rfl, rfl, rfl⟩
  simpa using h.append rest

theorem trimStart_append_closeGroup (s next : List Char) :
    trimStart (s ++ ')' :: next) = trimStart s ++ ')' :: next := by
  induction s with
  | nil => rfl
  | cons c s ih =>
    simp only [trimStart, List.cons_append, List.dropWhile_cons] at ih ⊢
    split
    · exact ih
    · rfl

section

variable {glued : Bool} {s next : List Char} {tokens behind : List Token}

/-- A parenthesis ends the last token of the text in front of it. -/
theorem Tokenized.append_closeGroup (h : Tokenized glued s tokens none)
    (hn : Tokenized true next behind none) :
    Tokenized glued (s ++ ')' :: next) (tokens ++ .closeGroup :: behind) none := by
  generalize ho : none = o at h
  induction h with
  | nil => exact .token rfl rfl rfl hn
  | trim | close => cases ho
  | blank hb hs _ ih =>
    rw [List.cons_append]
    refine .blank hb ?_ (ih ho)
    rw [trimStart_append_closeGroup, strip?_append_cons (by decide), hs, Option.map_none]
  | @token glued c cs token rest tokens o hb hs ht _ ih =>
    obtain ⟨l, rfl, -, hlocal⟩ := scanToken_local ht
    have hs' : strip? "\x7d\x7d".toList (c :: (l ++ rest) ++ ')' :: next) = none := by
      rw [strip?_append_cons (by decide), hs, Option.map_none]
    rw [List.cons_append, List.append_assoc] at hs' ⊢
    exact .token hb hs' (hlocal _ (.closeGroup rest next)) (ih ho)

theorem Tokenized.grouped (h : Tokenized false s tokens none)
    (hn : Tokenized true next behind none) :
    Tokenized false ('(' :: (s ++ ')' :: next)) (.openGroup :: (tokens ++ .closeGroup :: behind)) none :=
  .token rfl rfl rfl (h.append_closeGroup hn)

/-! ## The ends of an expression -/

theorem Tokenized.getLast? (h : Tokenized glued s tokens none) :
    ∀ c ∈ s.getLast?, isBlank c = true ∨ endsToken c = true := by
  generalize ho : none = o at h
  induction h with
  | nil => nofun
  | trim | close => cases ho
  | @blank glued c cs _ _ hb _ _ ih =>
    intro d hd
    rw [List.getLast?_cons] at hd
    cases hl : cs.getLast? with
    | none =>
      rw [hl] at hd
      cases hd
      exact .inl hb
    | some e =>
      rw [hl] at hd
      exact ih ho d (hl.trans hd)
  | @token glued c cs token rest tokens o hb hs ht _ ih =>
    obtain ⟨l, rfl, he, -⟩ := scanToken_local ht
    intro d hd
    rw [← List.cons_append, List.getLast?_append] at hd
    cases hl : rest.getLast? with
    | none =>
      rw [hl] at hd
      exact .inr (he d hd)
    | some e =>
      rw [hl] at hd
      exact ih ho d (hl.trans hd)

theorem not_tokenized_brace {closing : Option Closing} :
    ¬ Tokenized glued ('\x7b' :: s) tokens closing := by
  intro h
  have he : scanToken 0 glued ('\x7b' :: s) =
    .error (.unexpected (.source (String.singleton '\x7b')) 0) := rfl
  cases h with
  | trim hb => exact absurd hb (by decide)
  | blank hb => exact absurd hb (by decide)
  | close _ hs => cases hs
  | token _ _ ht =>
    rw [he] at ht
    cases ht

/-- A minus sign is that of a number. -/
theorem Tokenized.digit_of_minus {closing : Option Closing}
    (h : Tokenized glued ('-' :: s) tokens closing) : ∃ d ∈ s.head?, d.isDigit = true := by
  by_contra hd
  have digits : s.takeWhile Char.isDigit = [] := by
    cases s with
    | nil => rfl
    | cons d s => exact List.takeWhile_cons_of_neg fun digit => hd ⟨d, rfl, digit⟩
  have he : scanToken 0 glued ('-' :: s) = .error (.unexpected (.source "-") 0) := by
    simp [scanToken, scanInt, digits]
  cases h with
  | trim hb => exact absurd hb (by decide)
  | blank hb => exact absurd hb (by decide)
  | close _ hs => cases hs
  | token _ _ ht =>
    rw [he] at ht
    cases ht

end

/-! ## Groups -/

theorem tokensRead_group {tokens : List Token} {expression : Pipeline}
    (h : TokensRead tokens expression) :
    TokensRead (.openGroup :: (tokens ++ [.closeGroup])) [[.group expression]] := by
  obtain ⟨rfl, hw⟩ := tokensRead_iff.1 h
  refine tokensRead_iff.2 ⟨by simp [Pipeline.tokens, Command.tokens, Operand.tokens], ?_⟩
  simpa [Pipeline.wellFormed, Pipeline.allWellFormed, Command.allWellFormed, Operand.wellFormed] using hw

end Rollout.Template
