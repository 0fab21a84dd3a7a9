import Rollout.Proofs.Template.Layout
import Rollout.Proofs.Template.Reference
import Rollout.Proofs.Template.Splicing

/-!
# Spelling

The canonical text of a pipeline, and its way back: an action with this text is read as the pipeline.
The pipelines that have a way back are those of the actions in templates that can be read, and no others
(`parse_spelling`).
-/

namespace Rollout.Template

open Text

/-! ## Spelled pipelines -/

/-- The characters of a text as they stand between double quotes. -/
def escaped (s : List Char) : List Char :=
  s.flatMap fun c => if c = '\\' ∨ c = '"' then ['\\', c] else [c]

mutual

def Operand.spelling : Operand → List Char
  | .dot => ['.']
  | .field path => pathText path
  | .chain base path => base.spelling ++ pathText path
  | .group commands => '(' :: (Pipeline.spelling commands ++ [')'])
  | .function builtin => builtin.name.toList
  | .int value => (toString value).toList
  | .text value => '"' :: (escaped value.toList ++ ['"'])
  | .truth value => (if value then "true" else "false").toList
  | .nothing => "nil".toList

def Command.spelling : List Operand → List Char
  | [] => []
  | [operand] => operand.spelling
  | operand :: next :: rest => operand.spelling ++ ' ' :: Command.spelling (next :: rest)

def Pipeline.spelling : List (List Operand) → List Char
  | [] => []
  | [command] => Command.spelling command
  | command :: next :: rest =>
    Command.spelling command ++ ' ' :: '|' :: ' ' :: Pipeline.spelling (next :: rest)

end

/-- Whether the names and the number of a token are such that a scan finds them. -/
def Token.Lexical : Token → Prop
  | .field path | .chain path => path ≠ [] ∧ ∀ name ∈ path, IsName name
  | .int value => isInt64 value = true
  | _ => True

/-- A pipeline that no row of it leaves empty, with paths glued to groups only, and with the names and
numbers of the language. -/
structure Pipeline.Canonical (pipeline : Pipeline) : Prop where
  ne_nil : pipeline ≠ []
  wellFormed : Pipeline.allWellFormed Operand.isGroup pipeline = true
  lexical : ∀ token ∈ Pipeline.tokens pipeline, token.Lexical

/-! ## Tokens -/

/-- A text that is one token. -/
def IsToken (glued : Bool) (s : List Char) (token : Token) : Prop :=
  ∃ c cs, s = c :: cs ∧ isBlank c = false ∧ c ≠ '\x7d' ∧ scanToken 0 glued s = .ok (token, [])

theorem isToken_path {path : List String} (hn : path ≠ []) (h : ∀ name ∈ path, IsName name)
    (glued : Bool) : IsToken glued (pathText path) (if glued then .chain path else .field path) := by
  obtain ⟨name, more, rfl⟩ := List.exists_cons_of_ne_nil hn
  have hs : pathText (name :: more) = '.' :: (name.toList ++ pathText more) := rfl
  have hp := scanPath_pathText h
  rw [hs] at hp ⊢
  exact ⟨'.', _, rfl, rfl, by decide, by simp only [scanToken, hp]⟩

theorem isToken_function (builtin : Builtin) :
    IsToken false builtin.name.toList (.ident builtin.name) := by
  cases builtin <;> exact ⟨_, _, rfl, rfl, by decide, rfl⟩

theorem scanInt_digits {negative : Bool} {n : Nat}
    (h : isInt64 (if negative then -(n : Int) else n) = true) :
    scanInt 0 negative (Nat.toDigits 10 n) = .ok (.int (if negative then -(n : Int) else n), []) := by
  obtain ⟨ht, hd⟩ := takeWhile_append_of_all (w := Nat.toDigits 10 n) isDigit_of_mem_toDigits
    (show ∀ c ∈ ([] : List Char).head?, c.isDigit = false from nofun)
  rw [List.append_nil] at ht hd
  have hne : (Nat.toDigits 10 n).isEmpty = false := List.isEmpty_eq_false_iff.2 Nat.toDigits_ne_nil
  simp only [scanInt, ht, hd, hne, int64OfDigits?, digitsValue_toDigits, h, Bool.false_eq_true, if_false,
    if_true]

theorem isToken_int {value : Int} (h : isInt64 value = true) :
    IsToken false (toString value).toList (.int value) := by
  cases value with
  | ofNat n =>
    have hs : (toString (Int.ofNat n)).toList = Nat.toDigits 10 n := Nat.toList_repr
    obtain ⟨c, cs, hcs⟩ := List.exists_cons_of_ne_nil (Nat.toDigits_ne_nil (n := n) (b := 10))
    have hc : c.isDigit = true := isDigit_of_mem_toDigits c (by rw [hcs]; exact List.mem_cons_self)
    have hscan := @scanInt_digits false n h
    rw [hs]
    refine ⟨c, cs, hcs, isBlank_of_isDigit hc, ?_, ?_⟩
    · rintro rfl
      exact absurd hc (by decide)
    · rw [hcs] at hscan ⊢
      exact (scanToken_digit hc cs).trans hscan
  | negSucc n =>
    have hs : (toString (Int.negSucc n)).toList = '-' :: Nat.toDigits 10 (n + 1) := by
      have : toString (Int.negSucc n) = "-" ++ Nat.repr (n + 1) := rfl
      rw [this, String.toList_append, Nat.toList_repr]
      rfl
    rw [hs]
    exact ⟨'-', _, rfl, rfl, by decide, @scanInt_digits true (n + 1) h⟩

theorem scanQuoted_escaped (s rest : List Char) :
    scanQuoted (escaped s ++ '"' :: rest) = some (s, rest) := by
  induction s with
  | nil => rfl
  | cons c s ih =>
    rw [escaped, List.flatMap_cons, ← escaped]
    by_cases hc : c = '\\' ∨ c = '"'
    · rw [if_pos hc]
      rcases hc with rfl | rfl <;>
        simp only [List.cons_append, List.nil_append, scanQuoted, ih] <;> rfl
    · rw [if_neg hc, List.singleton_append, List.cons_append]
      rw [not_or] at hc
      rw [scanQuoted_cons hc.2 hc.1, ih, Option.map_some]

theorem isToken_text (value : String) :
    IsToken false ('"' :: (escaped value.toList ++ ['"'])) (.text value) :=
  ⟨'"', _, rfl, rfl, by decide, by simp only [scanToken, scanQuoted_escaped, String.ofList_toList]⟩

theorem isToken_truth (value : Bool) :
    IsToken false (if value then "true" else "false").toList (.truth value) := by
  cases value <;> exact ⟨_, _, rfl, rfl, by decide, rfl⟩

/-! ## Tokens in their place -/

/-- A text that ends the token in front of it, whatever this token is. -/
structure Follows (rest : List Char) (behind : List Token) (closing : Option Closing) : Prop where
  alike : AlikeAhead rest []
  tokenized (glued : Bool) : Tokenized glued rest behind closing

section

variable {glued : Bool} {s rest : List Char} {token : Token} {tokens behind : List Token}
  {closing : Option Closing}

/-- A text with tokens starts with the first one, behind blanks. -/
theorem Tokenized.scanToken_trimStart (h : Tokenized glued s tokens closing) (hn : tokens ≠ []) :
    ∃ glued' r, scanToken 0 glued' (trimStart s) = .ok r := by
  induction h with
  | nil | trim | close => exact absurd rfl hn
  | blank hb _ _ ih =>
    rw [trimStart, List.dropWhile_cons_of_pos hb]
    exact ih hn
  | token hb _ ht _ =>
    rw [trimStart, List.dropWhile_cons_of_neg (by simp [hb])]
    exact ⟨_, _, ht⟩

/-- A text with tokens starts with none of the marks at the ends of an action. -/
theorem Tokenized.strip?_trimStart (h : Tokenized glued s tokens closing) (hn : tokens ≠ [])
    {p : List Char} (hp : p = "-\x7d\x7d".toList ∨ p = "/*".toList) : strip? p (trimStart s) = none := by
  obtain ⟨glued', r, ht⟩ := h.scanToken_trimStart hn
  rw [strip?_eq_none_iff]
  rintro ⟨t, hs⟩
  rw [← hs] at ht
  rcases hp with rfl | rfl <;> cases ht

theorem Tokenized.trimsBefore_eq (h : Tokenized glued s tokens closing) (hn : tokens ≠ []) :
    trimsBefore s = false := by
  obtain ⟨glued', r, ht⟩ := h.scanToken_trimStart hn
  rw [Bool.eq_false_iff]
  intro hm
  obtain ⟨c, t, rfl, hb⟩ := exists_of_trimsBefore hm
  have hc : c.isDigit = false := by
    by_contra hd
    rw [Bool.not_eq_false] at hd
    rw [isBlank_of_isDigit hd] at hb
    cases hb
  have hs : trimStart ('-' :: c :: t) = '-' :: c :: t := rfl
  rw [hs] at ht
  simp only [scanToken, scanInt, List.takeWhile_cons, hc] at ht
  cases ht

theorem Follows.blank (h : Tokenized false s tokens closing) (hn : tokens ≠ []) :
    Follows (' ' :: s) tokens closing where
  alike := ⟨rfl, rfl, rfl, rfl⟩
  tokenized _ := .blank rfl (h.strip?_trimStart hn (.inl rfl)) h

theorem Follows.pipe (h : Tokenized false s tokens closing) (hn : tokens ≠ []) :
    Follows (' ' :: '|' :: ' ' :: s) (.pipe :: tokens) closing :=
  .blank (.token rfl rfl rfl ((Follows.blank h hn).tokenized _)) (List.cons_ne_nil _ _)

theorem Follows.closeGroup (h : Tokenized true s tokens closing) :
    Follows (')' :: s) (.closeGroup :: tokens) closing where
  alike := ⟨rfl, rfl, rfl, rfl⟩
  tokenized _ := .token rfl rfl rfl h

theorem follows_close : Follows "\x7d\x7d".toList [] (some ⟨[], false⟩) where
  alike := ⟨rfl, rfl, rfl, rfl⟩
  tokenized _ := .close rfl rfl

theorem IsToken.tokenized (h : IsToken glued s token) (hr : Follows rest behind closing) :
    Tokenized glued (s ++ rest) (token :: behind) closing := by
  obtain ⟨c, cs, rfl, hb, hne, ht⟩ := h
  obtain ⟨l, hl, -, hnext⟩ := scanToken_local ht
  rw [List.append_nil] at hl
  subst hl
  have hs : strip? "\x7d\x7d".toList (c :: (cs ++ rest)) = none := if_neg hne.symm
  exact .token hb hs (hnext rest hr.alike) (hr.tokenized _)

/-! ## Pipelines in their place -/

theorem tokenized_group {commands : Pipeline}
    (h : Tokenized false (Pipeline.spelling commands ++ ')' :: rest)
      (Pipeline.tokens commands ++ .closeGroup :: behind) closing) :
    Tokenized glued ((Operand.group commands).spelling ++ rest)
      ((Operand.group commands).tokens ++ behind) closing := by
  rw [Operand.spelling, Operand.tokens, List.cons_append, List.cons_append, List.append_assoc,
    List.append_assoc]
  exact .token rfl rfl rfl h

mutual

theorem Operand.tokenized_spelling {operand : Operand} (hw : operand.wellFormed Operand.isGroup = true)
    (hl : ∀ token ∈ operand.tokens, token.Lexical) {rest : List Char} {behind : List Token}
    {closing : Option Closing} (hr : Follows rest behind closing) :
    Tokenized false (operand.spelling ++ rest) (operand.tokens ++ behind) closing := by
  match operand with
  | .dot => exact IsToken.tokenized ⟨'.', [], rfl, rfl, by decide, rfl⟩ hr
  | .field path =>
    obtain ⟨hn, hp⟩ := hl _ (List.mem_singleton_self _)
    exact (isToken_path hn hp false).tokenized hr
  | .function builtin => exact (isToken_function builtin).tokenized hr
  | .int value =>
    have hi : isInt64 value = true := hl _ (List.mem_singleton_self _)
    exact (isToken_int hi).tokenized hr
  | .text value => exact (isToken_text value).tokenized hr
  | .truth value => exact (isToken_truth value).tokenized hr
  | .nothing => exact IsToken.tokenized ⟨'n', _, rfl, rfl, by decide, rfl⟩ hr
  | .group commands =>
    rw [Operand.wellFormed, Bool.and_eq_true] at hw
    have hc : ∀ token ∈ Pipeline.tokens commands, token.Lexical :=
      fun token hm => hl token (List.mem_cons_of_mem _ (List.mem_append_left _ hm))
    exact tokenized_group (Pipeline.tokenized_spelling hw.2 hc (.closeGroup (hr.tokenized true)))
  | .chain (.group commands) path =>
    rw [Operand.wellFormed, Operand.wellFormed, Bool.and_eq_true, Bool.and_eq_true] at hw
    have hc : ∀ token ∈ Pipeline.tokens commands, token.Lexical := fun token hm =>
      hl token (List.mem_append_left _ (List.mem_cons_of_mem _ (List.mem_append_left _ hm)))
    obtain ⟨hn, hp⟩ := hl _ (List.mem_append_right _ (List.mem_singleton_self _))
    have ht : Tokenized true (pathText path ++ rest) (.chain path :: behind) closing :=
      (isToken_path hn hp true).tokenized hr
    rw [Operand.spelling, Operand.tokens, List.append_assoc, List.append_assoc]
    exact tokenized_group (Pipeline.tokenized_spelling hw.2.2 hc (.closeGroup ht))

theorem Command.tokenized_spelling {command : List Operand}
    (hw : Command.allWellFormed Operand.isGroup command = true)
    (hn : command ≠ []) (hl : ∀ token ∈ Command.tokens command, token.Lexical) {rest : List Char}
    {behind : List Token} {closing : Option Closing} (hr : Follows rest behind closing) :
    Tokenized false (Command.spelling command ++ rest) (Command.tokens command ++ behind) closing := by
  match command with
  | [operand] =>
    rw [Command.allWellFormed, Bool.and_eq_true] at hw
    rw [Command.tokens, Command.tokens, List.append_nil] at hl ⊢
    exact Operand.tokenized_spelling hw.1 hl hr
  | operand :: next :: more =>
    rw [Command.allWellFormed, Bool.and_eq_true] at hw
    rw [Command.tokens, List.forall_mem_append] at hl
    have hm := Command.tokenized_spelling hw.2 (List.cons_ne_nil _ _) hl.2 hr
    have hne := (Command.filled (List.cons_ne_nil next more) hw.2).ne_nil
    have ho := Operand.tokenized_spelling hw.1 hl.1 (.blank hm (List.append_ne_nil_of_left_ne_nil hne _))
    rw [Command.spelling, Command.tokens, List.append_assoc, List.append_assoc, List.cons_append]
    exact ho

theorem Pipeline.tokenized_spelling {commands : List (List Operand)}
    (hw : Pipeline.allWellFormed Operand.isGroup commands = true)
    (hl : ∀ token ∈ Pipeline.tokens commands, token.Lexical) {rest : List Char}
    {behind : List Token} {closing : Option Closing} (hr : Follows rest behind closing) :
    Tokenized false (Pipeline.spelling commands ++ rest) (Pipeline.tokens commands ++ behind) closing := by
  match commands with
  | [] => exact hr.tokenized false
  | [command] =>
    rw [Pipeline.allWellFormed, Bool.and_eq_true, Bool.and_eq_true] at hw
    exact Command.tokenized_spelling hw.1.2 (by simpa using hw.1.1) hl hr
  | command :: next :: more =>
    rw [Pipeline.allWellFormed, Bool.and_eq_true, Bool.and_eq_true] at hw
    rw [Pipeline.tokens, List.forall_mem_append, List.forall_mem_cons] at hl
    have hm := Pipeline.tokenized_spelling hw.2 hl.2.2 hr
    have hne := (Pipeline.filled (List.cons_ne_nil next more) hw.2).ne_nil
    have hc := Command.tokenized_spelling hw.1.2 (by simpa using hw.1.1) hl.1
      (.pipe hm (List.append_ne_nil_of_left_ne_nil hne _))
    rw [Pipeline.spelling, Pipeline.tokens, List.append_assoc, List.append_assoc]
    exact hc

end

/-! ## The way back -/

mutual

theorem Operand.wellFormed_mono {takes takes' : Operand → Bool}
    (ht : ∀ operand, takes operand = true → takes' operand = true) {operand : Operand}
    (h : operand.wellFormed takes = true) : operand.wellFormed takes' = true := by
  match operand with
  | .dot | .field _ | .function _ | .int _ | .text _ | .truth _ | .nothing => rfl
  | .chain base path =>
    rw [Operand.wellFormed, Bool.and_eq_true] at h ⊢
    exact ⟨ht base h.1, Operand.wellFormed_mono ht h.2⟩
  | .group commands =>
    rw [Operand.wellFormed, Bool.and_eq_true] at h ⊢
    exact ⟨h.1, Pipeline.allWellFormed_mono ht h.2⟩

theorem Command.allWellFormed_mono {takes takes' : Operand → Bool}
    (ht : ∀ operand, takes operand = true → takes' operand = true) {command : List Operand}
    (h : Command.allWellFormed takes command = true) : Command.allWellFormed takes' command = true := by
  match command with
  | [] => rfl
  | operand :: rest =>
    rw [Command.allWellFormed, Bool.and_eq_true] at h ⊢
    exact ⟨Operand.wellFormed_mono ht h.1, Command.allWellFormed_mono ht h.2⟩

theorem Pipeline.allWellFormed_mono {takes takes' : Operand → Bool}
    (ht : ∀ operand, takes operand = true → takes' operand = true) {commands : List (List Operand)}
    (h : Pipeline.allWellFormed takes commands = true) :
    Pipeline.allWellFormed takes' commands = true := by
  match commands with
  | [] => rfl
  | command :: rest =>
    rw [Pipeline.allWellFormed, Bool.and_eq_true, Bool.and_eq_true] at h ⊢
    exact ⟨⟨h.1.1, Command.allWellFormed_mono ht h.1.2⟩, Pipeline.allWellFormed_mono ht h.2⟩

end

theorem isChain_of_isGroup (operand : Operand) (h : operand.isGroup = true) :
    (!operand.isChain) = true := by
  cases operand with
  | group => rfl
  | _ => cases h

theorem Pipeline.Canonical.tokensRead {pipeline : Pipeline} (h : pipeline.Canonical) :
    TokensRead (Pipeline.tokens pipeline) pipeline := by
  refine tokensRead_iff.2 ⟨rfl, ?_⟩
  rw [Pipeline.wellFormed, Bool.and_eq_true]
  exact ⟨by simpa using h.ne_nil, Pipeline.allWellFormed_mono isChain_of_isGroup h.wellFormed⟩

theorem Pipeline.Canonical.innerRead {pipeline : Pipeline} (h : pipeline.Canonical) :
    InnerRead (Pipeline.spelling pipeline ++ "\x7d\x7d".toList) [.action pipeline] ⟨[], false⟩ := by
  have ht := Pipeline.tokenized_spelling h.wellFormed h.lexical follows_close
  rw [List.append_nil] at ht
  have hn := (Pipeline.filled h.ne_nil h.wellFormed).ne_nil
  have hb : innerBody (Pipeline.spelling pipeline ++ "\x7d\x7d".toList) =
      Pipeline.spelling pipeline ++ "\x7d\x7d".toList := by
    rw [innerBody, ht.trimsBefore_eq hn]
    rfl
  rw [← hb] at ht
  exact .action (ht.strip?_trimStart hn (.inr rfl)) ht h.tokensRead

theorem Pipeline.Canonical.parse {pipeline : Pipeline} (h : pipeline.Canonical) :
    Template.parse ("\x7b\x7b" ++ String.ofList (Pipeline.spelling pipeline) ++ "\x7d\x7d") =
      .ok ⟨[.action pipeline]⟩ := by
  rw [← h.innerRead.parse]
  congr 1
  apply String.toList_injective
  simp

/-! ## What can be read -/

theorem isInt64_of_int64OfDigits? {negative : Bool} {digits : List Char} {value : Int}
    (h : int64OfDigits? negative digits = some value) : isInt64 value = true := by
  simp only [int64OfDigits?, Option.ite_none_right_eq_some, Option.some.injEq] at h
  rw [← h.2]
  exact h.1

theorem isInt64_of_scanInt {pos : Nat} {negative : Bool} {s rest : List Char} {value : Int}
    (h : scanInt pos negative s = .ok (.int value, rest)) : isInt64 value = true := by
  simp only [scanInt] at h
  split at h
  · cases h
  · split at h
    · rename_i hv
      cases h
      exact isInt64_of_int64OfDigits? hv
    · cases h

theorem wordToken_ne_int (word : String) (value : Int) : wordToken word ≠ .int value := by
  obtain ⟨b, h⟩ | h | h := wordToken_cases word <;> rw [h] <;> nofun

theorem isInt64_of_scanToken {pos : Nat} {s rest : List Char} {value : Int}
    (h : scanToken pos glued s = .ok (.int value, rest)) : isInt64 value = true := by
  unfold scanToken at h
  split at h
  · cases h
  · cases h
  · cases h
  · cases h
  · split at h <;> cases h
  · split at h <;> cases h
  · exact isInt64_of_scanInt h
  · split at h
    · cases h
    · cases glued <;> cases h
  · split at h
    · exact isInt64_of_scanInt h
    · split at h
      · exact absurd (congrArg Prod.fst (Except.ok.inj h)) (wordToken_ne_int _ _)
      · cases h

theorem Scanned.lexical (h : Scanned token) : token.Lexical := by
  obtain ⟨glued, s, rest, hs⟩ := h
  cases token with
  | field path | chain path =>
    obtain ⟨hn, hp, -⟩ := scanToken_path hs rfl
    exact ⟨hn, isName_of_scanPath hp⟩
  | int value => exact isInt64_of_scanToken hs
  | _ => trivial

theorem SourceRead.canonical {trims : Bool} {s : List Char} {nodes : List Node} {pipeline : Pipeline}
    (h : SourceRead trims s nodes) (hm : .action pipeline ∈ nodes) : pipeline.Canonical := by
  obtain ⟨body, tokens, closing, ht, hr⟩ := h.exists_read hm
  obtain ⟨rfl, hw⟩ := tokensRead_iff.1 hr
  rw [Pipeline.wellFormed, Bool.and_eq_true] at hw
  exact ⟨by simpa using hw.1, Pipeline.allWellFormed_isGroup hw.2 ht.gluedToGroups.1,
    fun token hm => (ht.scanned token hm).lexical⟩

/-- A pipeline is canonical exactly if some template has it as an action, and then the text of its
spelling between delimiters is a template that has this action and nothing else. -/
theorem parse_spelling :
    (∀ pipeline : Pipeline, pipeline.Canonical →
      Template.parse ("\x7b\x7b" ++ String.ofList (Pipeline.spelling pipeline) ++ "\x7d\x7d") =
        .ok ⟨[.action pipeline]⟩) ∧
    ∀ (source : String) (t : Template), Template.parse source = .ok t →
      ∀ pipeline, .action pipeline ∈ t.nodes → pipeline.Canonical :=
  ⟨fun _ h => h.parse, fun _ _ h _ hm => (parse_iff.1 h).canonical hm⟩

/-- A number after a sign, a path behind a group, and a closing delimiter, a quote and a backslash in a
text. -/
theorem parse_spelling_nested :
    Template.parse "\x7b\x7b(index .Apps -1).Name | printf \"\x7d\x7d\\\"\\\\\"\x7d\x7d" =
      .ok ⟨[.action [[.chain (.group [[.function .index, .field ["Apps"], .int (-1)]]) ["Name"]],
        [.function .printf, .text "\x7d\x7d\"\\"]]]⟩ := by
  have apps : ∀ name ∈ ["Apps"], IsName name := isName_of_scanPath (s := ".Apps".toList) rfl
  have name : ∀ name ∈ ["Name"], IsName name := isName_of_scanPath (s := ".Name".toList) rfl
  have spelled : "\x7b\x7b(index .Apps -1).Name | printf \"\x7d\x7d\\\"\\\\\"\x7d\x7d" =
      "\x7b\x7b" ++ String.ofList (Pipeline.spelling
        [[.chain (.group [[.function .index, .field ["Apps"], .int (-1)]]) ["Name"]],
          [.function .printf, .text "\x7d\x7d\"\\"]]) ++ "\x7d\x7d" := by
    decide +kernel
  rw [spelled]
  refine parse_spelling.1 _ ⟨List.cons_ne_nil _ _, rfl, ?_⟩
  simp [Pipeline.tokens, Command.tokens, Operand.tokens, Token.Lexical, apps, name, isInt64]

end

end Rollout.Template
