import Rollout.Proofs.Template.Delimiters

/-!
# References

The text `{{index .Apps i}}` as a selector: how the number in it is scanned, and what it is read as
(`readSelector_reference_iff`).
-/

namespace Rollout.Template

open Text

/-! ## Numbers -/

theorem digitsValue_toDigits (n : Nat) : digitsValue (Nat.toDigits 10 n) = n := by
  have h : digitsValue (Nat.toDigits 10 n) = Nat.ofDigitChars 10 (Nat.toDigits 10 n) 0 := by
    simp only [digitsValue, readDigits, Nat.ofDigitChars, Nat.mul_comm]
  rw [h, Nat.ofDigitChars_toDigits (by decide) (by decide)]

theorem isDigit_of_mem_toDigits {n : Nat} : ∀ c ∈ Nat.toDigits 10 n, c.isDigit = true :=
  fun _ => Nat.isDigit_of_mem_toDigits (by decide) (by decide)

theorem isBlank_of_isDigit {c : Char} (h : c.isDigit = true) : isBlank c = false := by
  obtain ⟨h0, h9⟩ : 0x30 ≤ c.toNat ∧ c.toNat ≤ 0x39 := Char.isDigit_iff_toNat.1 h
  simp only [isBlank, Bool.or_eq_false_iff, Bool.and_eq_false_iff, decide_eq_false_iff_not]
  omega

theorem scanToken_digit {pos : Nat} {glued : Bool} {c : Char} (h : c.isDigit = true) (cs : List Char) :
    scanToken pos glued (c :: cs) = scanInt pos false (c :: cs) := by
  rw [scanToken, if_pos h]
  all_goals
    rintro rfl
    exact absurd h (by decide)

theorem scanInt_toDigits (n : Nat) :
    scanInt 0 false (Nat.toDigits 10 n ++ [')']) =
      if isInt64 n then .ok (.int n, [')'])
      else .error (.unexpected (.source (String.ofList (Nat.toDigits 10 n))) 0) := by
  obtain ⟨ht, hd⟩ := takeWhile_append_of_all (w := Nat.toDigits 10 n) isDigit_of_mem_toDigits
    (show ∀ c ∈ [')'].head?, c.isDigit = false by rintro c ⟨⟩; rfl)
  have hv : int64OfDigits? false (Nat.toDigits 10 n) = if isInt64 n then some (n : Int) else none := by
    simp [int64OfDigits?, digitsValue_toDigits]
  have hne : (Nat.toDigits 10 n).isEmpty = false :=
    List.isEmpty_eq_false_iff.2 Nat.toDigits_ne_nil
  simp only [scanInt, ht, hd, hv, hne, Bool.false_eq_true, if_false]
  cases isInt64 n with
  | true => rfl
  | false => rfl

theorem tokenized_digits_iff {n : Nat} {tokens : List Token} :
    Tokenized false (Nat.toDigits 10 n ++ [')']) tokens none ↔
      isInt64 n = true ∧ tokens = [.int n, .closeGroup] := by
  obtain ⟨c, cs, hcs⟩ := List.exists_cons_of_ne_nil (Nat.toDigits_ne_nil (n := n) (b := 10))
  have hc : c.isDigit = true := isDigit_of_mem_toDigits c (by rw [hcs]; exact List.mem_cons_self)
  have hs : strip? "\x7d\x7d".toList (c :: (cs ++ [')'])) = none := by
    refine if_neg ?_
    rintro rfl
    exact absurd hc (by decide)
  have hscan := scanInt_toDigits n
  rw [hcs, List.cons_append] at hscan ⊢
  rw [← scanToken_digit hc] at hscan
  constructor
  · intro h
    obtain ⟨token, rest, behind, ht, rfl, h⟩ := h.behind_token (isBlank_of_isDigit hc) hs
    rw [hscan] at ht
    split at ht
    · rename_i hi
      cases ht
      obtain ⟨_, _, _, ht, rfl, h⟩ := h.behind_token rfl rfl
      cases ht
      cases h
      exact ⟨hi, rfl⟩
    · cases ht
  · rintro ⟨hi, rfl⟩
    rw [if_pos hi] at hscan
    exact .token (isBlank_of_isDigit hc) hs hscan (.token rfl rfl rfl .nil)

theorem strip?_trimStart_digits (n : Nat) :
    strip? "-\x7d\x7d".toList (trimStart (Nat.toDigits 10 n ++ [')'])) = none := by
  obtain ⟨c, cs, hcs⟩ := List.exists_cons_of_ne_nil (Nat.toDigits_ne_nil (n := n) (b := 10))
  have hc : c.isDigit = true := isDigit_of_mem_toDigits c (by rw [hcs]; exact List.mem_cons_self)
  rw [hcs, List.cons_append, trimStart, List.dropWhile_cons_of_neg (by simp [isBlank_of_isDigit hc])]
  refine if_neg ?_
  rintro rfl
  exact absurd hc (by decide)

/-! ## References -/

theorem tokenized_index_iff {s : List Char} {tokens : List Token} {closing : Option Closing}
    (hs : strip? "-\x7d\x7d".toList (trimStart s) = none) :
    Tokenized false ("(index .Apps ".toList ++ s) tokens closing ↔
      ∃ behind, tokens = .openGroup :: .ident "index" :: .field ["Apps"] :: behind ∧
        Tokenized false s behind closing := by
  have text : "(index .Apps ".toList ++ s = '(' :: 'i' :: 'n' :: 'd' :: 'e' :: 'x' :: ' ' ::
      '.' :: 'A' :: 'p' :: 'p' :: 's' :: ' ' :: s := rfl
  have group (glued : Bool) (t : List Char) :
      scanToken 0 glued ('(' :: t) = .ok (.openGroup, t) := rfl
  have word (glued : Bool) (t : List Char) :
      scanToken 0 glued ('i' :: 'n' :: 'd' :: 'e' :: 'x' :: ' ' :: t) = .ok (.ident "index", ' ' :: t) :=
    rfl
  have path (t : List Char) :
      scanToken 0 false ('.' :: 'A' :: 'p' :: 'p' :: 's' :: ' ' :: t) = .ok (.field ["Apps"], ' ' :: t) :=
    rfl
  rw [text]
  constructor
  · intro h
    obtain ⟨_, _, _, ht, rfl, h⟩ := h.behind_token rfl rfl
    cases (group _ _).symm.trans ht
    obtain ⟨_, _, _, ht, rfl, h⟩ := h.behind_token rfl rfl
    cases (word _ _).symm.trans ht
    obtain ⟨_, _, behind, ht, rfl, h⟩ := (h.behind_blank rfl rfl).behind_token rfl rfl
    cases (path _).symm.trans ht
    exact ⟨behind, rfl, h.behind_blank rfl hs⟩
  · rintro ⟨behind, rfl, h⟩
    exact .token rfl rfl (group _ _) (.token rfl rfl (word _ _)
      (.blank rfl rfl (.token rfl rfl (path _) (.blank rfl hs h))))

def reference (i : Nat) : String :=
  "\x7b\x7bindex .Apps " ++ toString i ++ "\x7d\x7d"

theorem toList_reference (i : Nat) : (reference i).toList =
    "\x7b\x7b".toList ++ ("index .Apps ".toList ++ Nat.toDigits 10 i) ++ "\x7d\x7d".toList := by
  have text : reference i = "\x7b\x7bindex .Apps " ++ toString i ++ "\x7d\x7d" := rfl
  rw [text, String.toList_append, String.toList_append, Nat.toString_eq_repr, Nat.toList_repr]
  rfl

theorem reference_isEmpty (i : Nat) : (reference i).isEmpty = false := by
  rw [Bool.eq_false_iff, ne_eq, String.isEmpty_iff, ← String.toList_eq_nil_iff, toList_reference]
  simp

theorem groupDelimiters_reference (i : Nat) :
    groupDelimiters (reference i).toList = "(index .Apps ".toList ++ (Nat.toDigits 10 i ++ [')']) := by
  have other : ∀ a ∈ ['-', '\x7b', '\x7d'], a.isDigit = false ∧ a ∉ "index .Apps ".toList := by simp
  have plain : ∀ a ∈ ['-', '\x7b', '\x7d'], a ∉ "index .Apps ".toList ++ Nat.toDigits 10 i := by
    intro a ha hm
    rcases List.mem_append.1 hm with hm | hm
    · exact (other a ha).2 hm
    · exact Bool.eq_false_iff.1 (other a ha).1 (isDigit_of_mem_toDigits a hm)
  rw [toList_reference, groupDelimiters_of_notMem plain]
  rfl

/-- A reference whose number has 64 bits is read as the call of `index` on the apps; no other is read. -/
theorem readSelector_reference_iff {i : Nat} {scope : Operand} :
    readSelector (reference i) = .ok scope ↔
      isInt64 i = true ∧ scope = .group [[.function .index, .field ["Apps"], .int i]] := by
  have hr (pipeline : Pipeline) :
      TokensRead [.openGroup, .ident "index", .field ["Apps"], .int i, .closeGroup] pipeline ↔
        pipeline = [[.group [[.function .index, .field ["Apps"], .int i]]]] := by
    have h : readPipeline 0 ([.openGroup, .ident "index", .field ["Apps"], .int i, .closeGroup].map
        (⟨·, 0⟩)) = .ok [[.group [[.function .index, .field ["Apps"], .int i]]]] := rfl
    rw [TokensRead, h, Except.ok.injEq, eq_comm]
  rw [readSelector, groupDelimiters_reference, bind_eq_ok]
  constructor
  · rintro ⟨pipeline, hp, h⟩
    obtain ⟨tokens, ht, hp⟩ := readExpression_iff.1 hp
    obtain ⟨behind, rfl, hd⟩ := (tokenized_index_iff (strip?_trimStart_digits i)).1 ht
    obtain ⟨hi, rfl⟩ := tokenized_digits_iff.1 hd
    cases (hr pipeline).1 hp
    cases h
    exact ⟨hi, rfl⟩
  · rintro ⟨hi, rfl⟩
    refine ⟨_, readExpression_iff.2 ⟨_, (tokenized_index_iff (strip?_trimStart_digits i)).2
      ⟨_, rfl, tokenized_digits_iff.2 ⟨hi, rfl⟩⟩, (hr _).2 rfl⟩, rfl⟩

end Rollout.Template
