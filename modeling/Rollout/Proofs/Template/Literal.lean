import Rollout.Proofs.Template.Locality

/-!
# Characters of literals

Characters such as braces stand in an expression only inside its literals. So an expression has them as
often as its literals do (`Tokenized.count_eq`).
-/

namespace Rollout.Template

open Text

variable {c : Char} {s rest : List Char} {token : Token} {tokens : List Token}

/-- A character that stands in expressions only inside literals, and there for itself. -/
structure LiteralOnly (c : Char) : Prop where
  token : endsToken c = false
  blank : isBlank c = false
  minus : c ≠ '-'
  escape : c ≠ '\\'

def Token.literal : Token → List Char
  | .text value => value.toList
  | _ => []

def literals (tokens : List Token) : List Char :=
  tokens.flatMap Token.literal

theorem literal_wordToken (word : String) : (wordToken word).literal = [] := by
  unfold wordToken
  split
  · rfl
  · split
    · rfl
    · split <;> rfl

namespace LiteralOnly

theorem ne_of_endsToken (h : LiteralOnly c) {d : Char} (hd : endsToken d = true) : d ≠ c := by
  rintro rfl
  exact Bool.eq_false_iff.1 h.token hd

theorem ne_of_isBlank (h : LiteralOnly c) {d : Char} (hd : isBlank d = true) : d ≠ c := by
  rintro rfl
  exact Bool.eq_false_iff.1 h.blank hd

theorem count_eq_zero (h : LiteralOnly c) (hs : ∀ d ∈ s, endsToken d = true) : s.count c = 0 :=
  List.count_eq_zero.2 fun hm => h.ne_of_endsToken (hs c hm) rfl

theorem count_scanQuoted (h : LiteralOnly c) {chars : List Char}
    (hs : scanQuoted s = some (chars, rest)) : s.count c = chars.count c + rest.count c := by
  fun_induction scanQuoted s generalizing chars rest with
  | case1 => cases hs
  | case2 s =>
    cases hs
    rw [List.count_cons_of_ne (h.ne_of_endsToken rfl), List.count_nil, Nat.zero_add]
  | case3 => cases hs
  | case4 =>
    rename_i d s e ih
    obtain ⟨⟨chars', rest'⟩, h', he⟩ := Option.map_eq_some_iff.1 hs
    cases he
    have escaped : (e == c) = (d == c) := by
      by_cases hn : d = 'n'
      · have letter := h.ne_of_endsToken (d := 'n') (by decide)
        have feed := h.ne_of_isBlank (d := '\n') (by decide)
        simp [e, hn, letter, feed]
      · by_cases ht : d = 't'
        · have letter := h.ne_of_endsToken (d := 't') (by decide)
          have tab := h.ne_of_isBlank (d := '\t') (by decide)
          simp [e, ht, letter, tab]
        · simp [e, hn, ht]
    rw [List.count_cons_of_ne h.escape.symm, List.count_cons, List.count_cons, ih h', escaped]
    omega
  | case5 d s _ _ _ ih =>
    obtain ⟨⟨chars', rest'⟩, h', he⟩ := Option.map_eq_some_iff.1 hs
    cases he
    rw [List.count_cons, List.count_cons, ih h']
    omega

theorem count_scanInt (h : LiteralOnly c) {pos : Nat} {negative : Bool}
    (hs : scanInt pos negative s = .ok (token, rest)) :
    s.count c = token.literal.count c + rest.count c := by
  have literal : token.literal = [] := by
    unfold scanInt at hs
    simp only at hs
    split at hs
    · cases hs
    · split at hs <;> cases hs
      rfl
  obtain ⟨l, rfl, -, hl, -⟩ := scanInt_local hs
  rw [literal, List.count_append, h.count_eq_zero hl, List.count_nil]

theorem count_scanToken (h : LiteralOnly c) {pos : Nat} {glued : Bool} {d : Char} {cs : List Char}
    (hs : scanToken pos glued (d :: cs) = .ok (token, rest)) :
    (d :: cs).count c = token.literal.count c + rest.count c := by
  unfold scanToken at hs
  split at hs <;> rename_i hc
  · cases hc
  all_goals cases hc
  · cases hs
    rw [List.count_cons_of_ne (h.ne_of_endsToken rfl)]
    exact (Nat.zero_add _).symm
  · cases hs
    rw [List.count_cons_of_ne (h.ne_of_endsToken rfl)]
    exact (Nat.zero_add _).symm
  · cases hs
    rw [List.count_cons_of_ne (h.ne_of_endsToken rfl)]
    exact (Nat.zero_add _).symm
  · split at hs
    · rename_i chars rest' hq
      cases hs
      rw [List.count_cons_of_ne (h.ne_of_endsToken rfl), h.count_scanQuoted hq, Token.literal,
        String.toList_ofList]
    · cases hs
  · split at hs
    · rename_i chars rest' hq
      cases hs
      have quote : ['\x60'].count c = 0 := h.count_eq_zero (List.forall_mem_singleton.2 rfl)
      rw [List.count_cons_of_ne (h.ne_of_endsToken rfl), eq_of_cut? hq, Token.literal,
        String.toList_ofList, List.count_append, List.count_append, quote, Nat.add_zero]
    · cases hs
  · rw [List.count_cons_of_ne h.minus.symm]
    exact h.count_scanInt hs
  · split at hs
    · cases hs
      rw [List.count_cons_of_ne (h.ne_of_endsToken rfl)]
      exact (Nat.zero_add _).symm
    · rename_i path rest' hne hp
      cases hs
      have literal : (if glued then Token.chain path else Token.field path).literal = [] := by
        cases glued <;> rfl
      obtain ⟨l, rfl, hl, -⟩ := scanPath_names_local hp hne
      rw [literal, ← List.cons_append, List.count_append, h.count_eq_zero hl, List.count_nil]
  · split at hs
    · exact h.count_scanInt hs
    · split at hs
      · rename_i hi
        cases hs
        have name : ∀ a ∈ d :: cs.takeWhile isIdentChar, endsToken a = true :=
          List.forall_mem_cons.2
            ⟨endsToken_of_isIdentChar (isIdentChar_of_isIdentStart hi), endsToken_of_takeWhile id⟩
        rw [literal_wordToken, List.count_nil]
        nth_rewrite 1 [← List.takeWhile_append_dropWhile (p := isIdentChar) (l := cs)]
        rw [← List.cons_append, List.count_append, h.count_eq_zero name]
      · cases hs

end LiteralOnly

theorem Tokenized.count_eq (hc : LiteralOnly c) {glued : Bool} (h : Tokenized glued s tokens none) :
    s.count c = (literals tokens).count c := by
  generalize ho : none = o at h
  induction h with
  | nil => rfl
  | trim | close => cases ho
  | blank hb _ _ ih => rw [List.count_cons_of_ne (hc.ne_of_isBlank hb), ih ho]
  | token _ _ ht _ ih =>
    rw [hc.count_scanToken ht, ih ho, literals, literals, List.flatMap_cons, List.count_append]

end Rollout.Template
