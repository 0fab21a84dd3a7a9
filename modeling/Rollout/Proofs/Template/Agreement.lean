import Rollout.Proofs.Template.Enclosed

/-!
# Selectors and sources of one action

Sources take delimiters where tokens end and know comments, selectors replace text. So the two read the
same expression between the same delimiters only where no literal has a delimiter in it, marks that trim
stand beside spaces, and there is no comment (`readSelector_eq_group_iff`).

That they do not agree elsewhere is seen on the characters of literals: of slashes and braces, a selector
that is read as the action has as many as the action's literals.
-/

namespace Rollout.Template

open Text

variable {p : Pipeline} {s front lead inside trail behind : List Char} {tokens : List Token}

/-! ## Delimiters around an expression -/

theorem groupDelimiters_cons {c : Char} (hb : c ≠ ' ') (ho : c ≠ '\x7b') (hc : c ≠ '\x7d')
    (s : List Char) : groupDelimiters (c :: s) = c :: groupDelimiters s := by
  have kept := replaceAll_cons_of_ne (p := ['\x7b', '-', ' ']) ho.symm ['('] s
  exact (congrArg groupPlain kept).trans (groupPlain_cons hb ho hc _)

/-- The last character of an expression. -/
theorem Tokenized.exists_concat (h : Tokenized false inside tokens none) (filled : inside ≠ []) :
    ∃ x e, inside = x ++ [e] ∧ e ≠ '-' ∧ e ≠ '\x7b' ∧ e ≠ '\x7d' := by
  have last := h.getLast? _ (List.getLast?_eq_some_getLast filled)
  refine ⟨_, _, (List.dropLast_append_getLast filled).symm, ?_⟩
  generalize inside.getLast filled = e at last
  refine ⟨?_, ?_, ?_⟩ <;> rintro rfl <;> exact absurd last (by decide)

theorem Tokenized.not_prefix (h : Tokenized false inside tokens none) (filled : inside ≠ [])
    (r : List Char) : ¬ ['\x7b'] <+: inside ++ r ∧ ¬ ['-', ' '] <+: inside ++ r := by
  obtain ⟨c, x, rfl⟩ := List.exists_cons_of_ne_nil filled
  constructor
  · rintro ⟨t, ht⟩
    obtain ⟨rfl, -⟩ := List.cons.inj ht
    exact not_tokenized_brace h
  · rintro ⟨t, ht⟩
    obtain ⟨rfl, tail⟩ := List.cons.inj ht
    obtain ⟨d, hd, digit⟩ := h.digit_of_minus
    cases x with
    | nil => cases hd
    | cons e x =>
      obtain rfl : e = d := Option.some.inj hd
      have space : ' ' = e := (List.cons.inj tail).1
      rw [← space] at digit
      exact absurd digit (by decide)

/-- What is left of a mark that trims when delimiters are replaced: only with a space it is part of one. -/
def keptMark (mark : List Char) : List Char :=
  if ' ' ∈ mark then [] else mark

theorem keptMark_of_notMem {mark : List Char} (h : ' ' ∉ mark) : keptMark mark = mark :=
  if_neg h

theorem keptMark_eq (mark : List Char) : keptMark mark = [] ∨ keptMark mark = mark := by
  unfold keptMark
  split
  · exact .inl rfl
  · exact .inr rfl

theorem count_keptMark {c : Char} {mark : List Char} (h : c ∉ mark) : (keptMark mark).count c = 0 := by
  rcases keptMark_eq mark with hk | hk
  · rw [hk, List.count_nil]
  · rw [hk, List.count_eq_zero_of_not_mem h]

theorem groupDelimiters_lead (hf : ∀ c ∈ front, isBlank c = true) (hl : LeadMark lead)
    (h : Tokenized false inside tokens none) (filled : inside ≠ []) (r : List Char) :
    groupDelimiters (front ++ "\x7b\x7b".toList ++ (lead ++ (inside ++ r))) =
      front ++ '(' :: (keptMark lead ++ groupDelimiters (inside ++ r)) := by
  have opens : '\x7b' ∉ front := notMem_of_isBlank hf rfl
  have closes : '\x7d' ∉ front := notMem_of_isBlank hf rfl
  obtain ⟨brace, minus⟩ := h.not_prefix filled r
  rcases hl with rfl | ⟨b, hb, rfl⟩
  · exact groupDelimiters_open opens closes brace minus
  · by_cases space : b = ' '
    · subst space
      have opened := groupDelimiters_trim opens closes (inside ++ r)
      rw [List.append_assoc] at opened ⊢
      exact opened
    · have brace : ¬ ['\x7b'] <+: '-' :: b :: (inside ++ r) := by simp
      have minus : ¬ ['-', ' '] <+: '-' :: b :: (inside ++ r) := by simpa using Ne.symm space
      have kept : keptMark ['-', b] = ['-', b] := keptMark_of_notMem (by simpa using Ne.symm space)
      rw [kept]
      refine (groupDelimiters_open opens closes brace minus).trans (congrArg (front ++ '(' :: ·) ?_)
      rw [groupDelimiters_cons (by decide) (by decide) (by decide),
        groupDelimiters_cons space (blank_ne hb rfl) (blank_ne hb rfl)]
      rfl

theorem groupPlain_trail (h : Tokenized false inside tokens none) (filled : inside ≠ [])
    (ht : TrailMark trail) (hb : ∀ c ∈ behind, isBlank c = true) :
    groupPlain (inside ++ (trail ++ "\x7d\x7d".toList ++ behind)) =
      groupPlain inside ++ (keptMark trail ++ ')' :: behind) := by
  rcases ht with rfl | ⟨b, hbl, rfl⟩
  · obtain ⟨x, e, rfl, hm, ho, hc⟩ := h.exists_concat filled
    have last := groupPlain_append_cons hm ho hc x []
    have whole := groupPlain_append_cons hm ho hc x ("\x7d\x7d".toList ++ behind)
    have alone : groupPlain [e] = [e] :=
      groupPlain_of_undelimited (fun hi => absurd hi.length_le (Nat.not_succ_le_self 1))
        (fun hi => absurd hi.length_le (Nat.not_succ_le_self 1))
    have closed : groupPlain (e :: ("\x7d\x7d".toList ++ behind)) = e :: ')' :: behind :=
      groupPlain_end (x := [e]) (by simp [hm.symm, ho.symm, hc.symm]) hb
    rw [List.append_assoc, List.nil_append, List.singleton_append, whole, closed, last, alone,
      List.append_assoc]
    rfl
  · have blank {a : Char} : isBlank a = false → b ≠ a := blank_ne hbl
    have split := groupPlain_append_cons (blank rfl) (blank rfl) (blank rfl) inside
      ('-' :: ("\x7d\x7d".toList ++ behind))
    refine split.trans (congrArg (groupPlain inside ++ ·) ?_)
    by_cases space : b = ' '
    · subst space
      exact groupPlain_trim hb
    · have kept : keptMark [b, '-'] = [b, '-'] := keptMark_of_notMem (by simpa using Ne.symm space)
      rw [kept, groupPlain_cons space (blank rfl) (blank rfl),
        groupPlain_cons (by decide) (by decide) (by decide)]
      exact congrArg (b :: '-' :: ·) (groupPlain_end (x := []) (by simp) hb)

theorem keptMark_lead (h : lead = [] ∨ lead = ['-', ' ']) : keptMark lead = [] := by
  rcases h with rfl | rfl <;> rfl

theorem keptMark_trail (h : trail = [] ∨ trail = [' ', '-']) : keptMark trail = [] := by
  rcases h with rfl | rfl <;> rfl

theorem LeadMark.notMem (h : LeadMark lead) {a : Char} (ha : isBlank a = false) (hm : a ≠ '-') :
    a ∉ lead := by
  rcases h with rfl | ⟨b, hb, rfl⟩
  · exact List.not_mem_nil
  · simp [hm, (blank_ne hb ha).symm]

theorem TrailMark.notMem (h : TrailMark trail) {a : Char} (ha : isBlank a = false) (hm : a ≠ '-') :
    a ∉ trail := by
  rcases h with rfl | ⟨b, hb, rfl⟩
  · exact List.not_mem_nil
  · simp [hm, (blank_ne hb ha).symm]

namespace Enclosed

theorem exists_tokens (h : Enclosed p front lead inside trail behind s) :
    inside ≠ [] ∧ ∃ tokens, Tokenized false inside tokens none ∧ TokensRead tokens p := by
  obtain ⟨tokens, hi, hp⟩ := readExpression_iff.1 h.read
  refine ⟨?_, tokens, hi, hp⟩
  rintro rfl
  cases hi
  exact not_tokensRead_nil hp

theorem brace_notMem (h : Enclosed p front lead inside trail behind s)
    (hb : ∀ c ∈ behind, isBlank c = true) : '\x7b' ∉ trail ++ "\x7d\x7d".toList ++ behind := by
  simp [h.trail.notMem (a := '\x7b') rfl (by decide), notMem_of_isBlank (a := '\x7b') hb rfl]

theorem groupDelimiters_source (h : Enclosed p front lead inside trail behind s)
    (hf : ∀ c ∈ front, isBlank c = true) :
    groupDelimiters s = front ++ '(' ::
      (keptMark lead ++ groupDelimiters (inside ++ (trail ++ "\x7d\x7d".toList ++ behind))) := by
  obtain ⟨filled, tokens, hi, -⟩ := h.exists_tokens
  rw [h.source, List.append_assoc inside, List.append_assoc inside]
  exact groupDelimiters_lead hf h.lead hi filled _

theorem groupDelimiters_eq (h : Enclosed p front lead inside trail behind s)
    (hf : ∀ c ∈ front, isBlank c = true) (hb : ∀ c ∈ behind, isBlank c = true)
    (opens : ¬ "\x7b\x7b".toList <:+: inside) :
    groupDelimiters s = front ++ '(' ::
      (keptMark lead ++ (groupPlain inside ++ (keptMark trail ++ ')' :: behind))) := by
  obtain ⟨filled, tokens, hi, -⟩ := h.exists_tokens
  have opens : ¬ "\x7b\x7b".toList <:+: inside ++ (trail ++ "\x7d\x7d".toList ++ behind) := fun ho =>
    opens ((infix_append_iff_of_notMem (q := ['\x7b']) (h.brace_notMem hb)).1 ho)
  rw [h.groupDelimiters_source hf, groupDelimiters_of_unopened opens, groupPlain_trail hi filled h.trail hb]

end Enclosed

/-! ## Groups between blanks -/

section

variable {glued : Bool} {rest : List Char}

theorem Tokenized.behind_blanks (hf : ∀ c ∈ front, isBlank c = true)
    (h : Tokenized false ('(' :: rest) tokens none) : Tokenized false (front ++ '(' :: rest) tokens none := by
  induction front with
  | nil => exact h
  | cons c front ih =>
    rw [List.forall_mem_cons] at hf
    have start : trimStart (front ++ '(' :: rest) = '(' :: rest := by
      rw [trimStart, List.dropWhile_append_of_pos hf.2]
      rfl
    exact .blank hf.1 ((congrArg _ start).trans rfl) (ih hf.2)

theorem Tokenized.exists_behind_blanks (hf : ∀ c ∈ front, isBlank c = true)
    (h : Tokenized glued (front ++ '(' :: rest) tokens none) :
    ∃ inner, Tokenized false rest inner none := by
  induction front generalizing glued with
  | nil =>
    cases h with
    | blank hb => cases hb
    | token _ _ ht h =>
      cases ht
      exact ⟨_, h⟩
  | cons c front ih =>
    rw [List.forall_mem_cons] at hf
    cases h with
    | blank _ _ h => exact ih hf.2 h
    | token hb => cases hb.symm.trans hf.1

end

-- A minus sign that is left of a mark would be that of a number.

theorem LeadMark.eq_space {next : List Char} (h : LeadMark lead)
    (ht : Tokenized false (keptMark lead ++ next) tokens none) : lead = [] ∨ lead = ['-', ' '] := by
  rcases h with rfl | ⟨b, hb, rfl⟩
  · exact .inl rfl
  · by_cases space : b = ' '
    · exact .inr (by rw [space])
    · rw [keptMark_of_notMem (by simpa using Ne.symm space)] at ht
      obtain ⟨d, hd, digit⟩ := ht.digit_of_minus
      cases hd
      cases (isIdentChar_of_isBlank hb).symm.trans (isIdentChar_of_isDigit digit)

theorem TrailMark.eq_space {next : List Char} {all : List Token} (h : TrailMark trail)
    (hi : Tokenized false inside tokens none)
    (ht : Tokenized false (inside ++ (keptMark trail ++ ')' :: next)) all none) :
    trail = [] ∨ trail = [' ', '-'] := by
  rcases h with rfl | ⟨b, hb, rfl⟩
  · exact .inl rfl
  · by_cases space : b = ' '
    · exact .inr (by rw [space])
    · rw [keptMark_of_notMem (by simpa using Ne.symm space)] at ht
      obtain ⟨_, ht⟩ := hi.behind_append_blank hb ht
      obtain ⟨d, hd, digit⟩ := ht.digit_of_minus
      cases hd
      exact absurd digit (by decide)

/-! ## Agreement -/

/-- An expression in delimiters that a selector reads as a source does: without a delimiter in a literal,
with spaces at its marks and with blanks around it. -/
structure Plain (front lead inside trail behind : List Char) : Prop where
  front : ∀ c ∈ front, isBlank c = true
  lead : lead = [] ∨ lead = ['-', ' ']
  opens : ¬ "\x7b\x7b".toList <:+: inside
  closes : ¬ "\x7d\x7d".toList <:+: inside
  trail : trail = [] ∨ trail = [' ', '-']
  behind : ∀ c ∈ behind, isBlank c = true

section

variable {selector : String}

theorem Enclosed.readSelector (h : Enclosed p front lead inside trail behind selector.toList)
    (plain : Plain front lead inside trail behind) : readSelector selector = .ok (.group p) := by
  obtain ⟨-, tokens, hi, hp⟩ := h.exists_tokens
  have closed : Tokenized true behind [] none := tokenized_blanks plain.behind
  have grouped := hi.grouped closed
  refine bind_eq_ok.2 ⟨[[.group p]], readExpression_iff.2 ⟨_, ?_, tokensRead_group hp⟩, rfl⟩
  rw [h.groupDelimiters_eq plain.front plain.behind plain.opens, keptMark_lead plain.lead,
    keptMark_trail plain.trail, groupPlain_of_undelimited plain.opens plain.closes]
  exact grouped.behind_blanks plain.front

theorem readSelector_of_readExpression {e : String}
    (opens : ¬ "\x7b\x7b".toList <:+: e.toList) (closes : ¬ "\x7d\x7d".toList <:+: e.toList)
    (h : readExpression e.toList = .ok p) :
    readSelector ("\x7b\x7b" ++ e ++ "\x7d\x7d") = .ok (.group p) := by
  have enclosed : Enclosed p [] [] e.toList [] [] ("\x7b\x7b" ++ e ++ "\x7d\x7d").toList :=
    ⟨by simp, .inl rfl, h, .inl rfl⟩
  have none : ∀ c ∈ [], isBlank c = true := List.forall_mem_nil _
  exact enclosed.readSelector ⟨none, .inl rfl, opens, closes, .inl rfl, none⟩

/-- A selector's group has the literals of the expression, whether it is one by itself or not. -/
theorem exists_literals_eq (h : readSelector selector = .ok (.group p)) :
    ∃ tokens, Tokenized false (groupDelimiters selector.toList) tokens none ∧
      literals tokens = literals (Pipeline.tokens p) := by
  obtain ⟨q, hq, he⟩ := bind_eq_ok.1 h
  obtain ⟨tokens, ht, hr⟩ := readExpression_iff.1 hq
  obtain ⟨rfl, -⟩ := tokensRead_iff.1 hr
  refine ⟨_, ht, ?_⟩
  have operand : Pipeline.operand q = .group p := Except.ok.inj he
  unfold Pipeline.operand at operand
  split at operand
  · rw [operand]
    simp [literals, Pipeline.tokens, Command.tokens, Operand.tokens, Token.literal]
  · cases operand
    rfl

namespace Enclosed

theorem count_eq (h : Enclosed p front lead inside trail behind selector.toList)
    (hr : Template.readSelector selector = .ok (.group p)) {c : Char} (hc : LiteralOnly c) :
    (groupDelimiters selector.toList).count c = inside.count c := by
  obtain ⟨tokens, ht, he⟩ := exists_literals_eq hr
  obtain ⟨-, tokens', hi, hp⟩ := h.exists_tokens
  obtain ⟨rfl, -⟩ := tokensRead_iff.1 hp
  rw [ht.count_eq hc, hi.count_eq hc, he]

/-- No slash is beside an expression that a selector reads, so no comment is either. -/
theorem slash_notMem (h : Enclosed p front lead inside trail behind selector.toList)
    (hr : Template.readSelector selector = .ok (.group p)) : '/' ∉ front ∧ '/' ∉ behind := by
  have count := h.count_eq hr (c := '/') ⟨by decide +kernel, rfl, by decide, by decide⟩
  rw [count_groupDelimiters (by decide), h.source] at count
  simp only [List.count_append] at count
  rw [← List.count_eq_zero, ← List.count_eq_zero]
  omega

theorem not_opens (h : Enclosed p front lead inside trail behind selector.toList)
    (hr : Template.readSelector selector = .ok (.group p)) (hf : ∀ c ∈ front, isBlank c = true)
    (hb : ∀ c ∈ behind, isBlank c = true) : ¬ "\x7b\x7b".toList <:+: inside := by
  intro ho
  have count := h.count_eq hr (c := '\x7b') ⟨by decide +kernel, rfl, by decide, by decide⟩
  have taken := count_groupDelimiters_open
    (ho.trans (List.infix_append' [] inside (trail ++ "\x7d\x7d".toList ++ behind)))
  rw [h.groupDelimiters_source hf] at count
  have none : (trail ++ "\x7d\x7d".toList ++ behind).count '\x7b' = 0 :=
    List.count_eq_zero.2 (h.brace_notMem hb)
  have mark : (keptMark lead).count '\x7b' = 0 := count_keptMark (h.lead.notMem rfl (by decide))
  have beside : front.count '\x7b' = 0 := List.count_eq_zero.2 (notMem_of_isBlank hf rfl)
  rw [List.nil_append, List.count_append, none] at taken
  rw [List.count_append, List.count_cons_of_ne (by decide), List.count_append, mark, beside] at count
  omega

theorem not_closes (h : Enclosed p front lead inside trail behind selector.toList)
    (hr : Template.readSelector selector = .ok (.group p)) (hf : ∀ c ∈ front, isBlank c = true)
    (hb : ∀ c ∈ behind, isBlank c = true) (opens : ¬ "\x7b\x7b".toList <:+: inside) :
    ¬ "\x7d\x7d".toList <:+: inside := by
  intro hc
  have count := h.count_eq hr (c := '\x7d') ⟨by decide +kernel, rfl, by decide, by decide⟩
  have taken := count_groupPlain_close hc
  rw [h.groupDelimiters_eq hf hb opens] at count
  have marks : (keptMark lead).count '\x7d' = 0 ∧ (keptMark trail).count '\x7d' = 0 :=
    ⟨count_keptMark (h.lead.notMem rfl (by decide)), count_keptMark (h.trail.notMem rfl (by decide))⟩
  have beside : front.count '\x7d' = 0 ∧ behind.count '\x7d' = 0 :=
    ⟨List.count_eq_zero.2 (notMem_of_isBlank hf rfl), List.count_eq_zero.2 (notMem_of_isBlank hb rfl)⟩
  simp [marks, beside] at count
  omega

theorem plain (h : Enclosed p front lead inside trail behind selector.toList)
    (hf : '/' ∈ front ∨ ∀ c ∈ front, isBlank c = true)
    (hb : '/' ∈ behind ∨ ∀ c ∈ behind, isBlank c = true)
    (hr : Template.readSelector selector = .ok (.group p)) : Plain front lead inside trail behind := by
  obtain ⟨slash, slash'⟩ := h.slash_notMem hr
  replace hf := hf.resolve_left slash
  replace hb := hb.resolve_left slash'
  have opens := h.not_opens hr hf hb
  have closes := h.not_closes hr hf hb opens
  obtain ⟨tokens, ht, -⟩ := exists_literals_eq hr
  obtain ⟨-, tokens', hi, -⟩ := h.exists_tokens
  rw [h.groupDelimiters_eq hf hb opens, groupPlain_of_undelimited opens closes] at ht
  obtain ⟨inner, ht⟩ := ht.exists_behind_blanks hf
  have lead := h.lead.eq_space ht
  rw [keptMark_lead lead] at ht
  exact ⟨hf, lead, opens, closes, h.trail.eq_space hi ht, hb⟩

end Enclosed

/-- A path led through a group goes on from the group's value. -/
theorem eval_redirect_group (p : Pipeline) (root : Json) (path : List String) :
    (Operand.redirect (.group p) (.field (appRoot :: path))).eval root =
      (do walk (← Pipeline.eval root none p) path) := by
  cases path with
  | nil =>
    change Pipeline.eval root none p = _
    cases Pipeline.eval root none p <;> rfl
  | cons name path => rfl

/-- A selector that is a source of one action is read as the group of this action exactly if it is plain.
A path that is led through this group starts from the value of the action. -/
theorem readSelector_eq_group_iff (h : Template.parse selector = .ok ⟨[.action p]⟩) :
    (readSelector selector = .ok (.group p) ↔
      ∃ front lead inside trail behind, Enclosed p front lead inside trail behind selector.toList ∧
        Plain front lead inside trail behind) ∧
    ∀ (root : Json) (path : List String),
      (Operand.redirect (.group p) (.field (appRoot :: path))).eval root =
        (do walk (← Pipeline.eval root none p) path) := by
  refine ⟨⟨fun hr => ?_, ?_⟩, eval_redirect_group p⟩
  · obtain ⟨front, lead, inside, trail, behind, h, hf, hb⟩ := (parse_iff.1 h).exists_enclosed
    exact ⟨front, lead, inside, trail, behind, h, h.plain hf hb hr⟩
  · rintro ⟨front, lead, inside, trail, behind, h, plain⟩
    exact h.readSelector plain

/-- Marks that trim and blanks beyond them do not keep a selector from being read. -/
theorem readSelector_trimmed :
    readSelector " \x7b\x7b- index .Apps 0 -\x7d\x7d\n" =
      .ok (.group [[.function .index, .field ["Apps"], .int 0]]) := by
  have parsed : (Template.parse " \x7b\x7b- index .Apps 0 -\x7d\x7d\n").toOption =
      some ⟨[.action [[.function .index, .field ["Apps"], .int 0]]]⟩ := by decide +kernel
  have read : (readExpression "index .Apps 0".toList).toOption =
      some [[.function .index, .field ["Apps"], .int 0]] := by decide +kernel
  rw [toOption_eq_some] at parsed read
  have source : " \x7b\x7b- index .Apps 0 -\x7d\x7d\n".toList = [' '] ++ "\x7b\x7b".toList ++
      (['-', ' '] ++ ("index .Apps 0".toList ++ [' ', '-'] ++ "\x7d\x7d".toList ++ ['\n'])) := by
    decide +kernel
  have plain : Plain [' '] ['-', ' '] "index .Apps 0".toList [' ', '-'] ['\n'] :=
    { front := List.forall_mem_singleton.2 rfl
      lead := .inr rfl
      opens := by decide +kernel
      closes := by decide +kernel
      trail := .inr rfl
      behind := List.forall_mem_singleton.2 rfl }
  exact (readSelector_eq_group_iff parsed).1.2
    ⟨_, _, _, _, _, ⟨source, .inr ⟨' ', rfl, rfl⟩, read, .inr ⟨' ', rfl, rfl⟩⟩, plain⟩

theorem not_readSelector_of_parse :
    ¬ ∀ (selector : String) (p : Pipeline), Template.parse selector = .ok ⟨[.action p]⟩ →
      readSelector selector = .ok (.group p) := by
  intro agree
  have parsed : (Template.parse "\x7b\x7bindex .Labels \"\x7d\x7d\"\x7d\x7d").toOption =
      some ⟨[.action [[.function .index, .field ["Labels"], .text "\x7d\x7d"]]]⟩ := by decide +kernel
  have read : (readSelector "\x7b\x7bindex .Labels \"\x7d\x7d\"\x7d\x7d").toOption =
      some (.group [[.function .index, .field ["Labels"], .text ")"]]) := by decide +kernel
  rw [toOption_eq_some] at parsed read
  exact absurd (Except.ok.inj ((agree _ _ parsed).symm.trans read)) (by decide)

end

end Rollout.Template
