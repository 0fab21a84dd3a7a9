import Rollout.Proofs.Template.Delimiters
import Rollout.Proofs.Template.Layout

/-!
# Enclosed expressions

A source of one action is an expression in its delimiters, between blanks and comments
(`SourceRead.exists_enclosed`).
-/

namespace Rollout.Template

open Text

variable {c : Char} {s x y : List Char}

/-! ## An expression and its closing delimiter -/

theorem isIdentChar_of_isBlank (h : isBlank c = true) : isIdentChar c = false := by
  have blanks : ∀ n ∈ [0x9, 0xA, 0xB, 0xC, 0xD, 0x20, 0x85, 0xA0, 0x1680, 0x2000, 0x2001, 0x2002, 0x2003,
      0x2004, 0x2005, 0x2006, 0x2007, 0x2008, 0x2009, 0x200A, 0x2028, 0x2029, 0x202F, 0x205F, 0x3000],
      isIdentChar (Char.ofNat n) = false := by decide +kernel
  rw [← Char.ofNat_toNat c]
  apply blanks
  simp only [isBlank, Bool.or_eq_true, Bool.and_eq_true, decide_eq_true_eq] at h
  simp only [List.mem_cons, List.not_mem_nil, or_false]
  omega

theorem AlikeAhead.symm (h : AlikeAhead x y) : AlikeAhead y x :=
  ⟨h.path.symm, h.start.symm, h.name.symm, h.digit.symm⟩

theorem AlikeAhead.of_not_isIdentChar (hc : isIdentChar c = false) (dot : c ≠ '.') (s : List Char) :
    AlikeAhead (c :: s) [] where
  path := by
    rw [startsPath_cons, decide_eq_false dot, Bool.false_and]
    rfl
  start := Bool.eq_false_iff.2 fun h => Bool.eq_false_iff.1 hc (isIdentChar_of_isIdentStart h)
  name := hc
  digit := Bool.eq_false_iff.2 fun h => Bool.eq_false_iff.1 hc (isIdentChar_of_isDigit h)

theorem AlikeAhead.blank (hc : isBlank c = true) (s rest : List Char) :
    AlikeAhead (rest ++ c :: s) rest := by
  simpa using (of_not_isIdentChar (isIdentChar_of_isBlank hc) (blank_ne hc rfl) s).append rest

section

variable {glued : Bool} {tokens behind : List Token} {next : List Char}

theorem Tokenized.behind_append_blank (h : Tokenized glued s tokens none) (hc : isBlank c = true)
    {all : List Token} (ha : Tokenized glued (s ++ c :: next) all none) :
    ∃ behind, Tokenized false next behind none := by
  generalize ho : none = o at h
  induction h generalizing all with
  | nil =>
    cases ha with
    | blank _ _ h => exact ⟨_, h⟩
    | token hb => cases hb.symm.trans hc
  | trim | close => cases ho
  | blank hb _ _ ih =>
    cases ha with
    | blank _ _ h => exact ih h ho
    | token hb' => cases hb'.symm.trans hb
  | @token glued d cs token rest tokens o hb hs ht _ ih =>
    obtain ⟨l, rfl, -, hlocal⟩ := scanToken_local ht
    have ht' := hlocal _ (.blank hc next rest)
    rw [List.cons_append, List.append_assoc] at ha
    cases ha with
    | blank hb' => cases hb.symm.trans hb'
    | token _ _ ht'' h =>
      cases ht'.symm.trans ht''
      exact ih h ho

theorem tokenized_blanks (h : ∀ c ∈ s, isBlank c = true) : Tokenized glued s [] none := by
  induction s generalizing glued with
  | nil => exact .nil
  | cons c s ih =>
    rw [List.forall_mem_cons] at h
    have all : trimStart s = [] := List.dropWhile_eq_nil_iff.2 h.2
    exact .blank h.1 (by rw [all]; rfl) (ih h.2)

theorem strip?_trimStart_of_append {p : List Char} (hp : p ≠ [])
    (h : strip? p (trimStart (s ++ next)) = none) : strip? p (trimStart s) = none := by
  rw [strip?_eq_none_iff] at h ⊢
  rintro ⟨rest, hr⟩
  have blank : ¬ ∀ c ∈ s, isBlank c = true := by
    intro blank
    have all : trimStart s = [] := List.dropWhile_eq_nil_iff.2 blank
    rw [all] at hr
    exact hp (List.append_eq_nil_iff.1 hr).1
  rw [trimStart_append blank, ← hr, List.append_assoc] at h
  exact h (List.prefix_append _ _)

/-- Nothing, or the mark with which an opening delimiter trims. -/
def LeadMark (mark : List Char) : Prop :=
  mark = [] ∨ ∃ b, isBlank b = true ∧ mark = ['-', b]

/-- Nothing, or the mark with which a closing delimiter trims. -/
def TrailMark (mark : List Char) : Prop :=
  mark = [] ∨ ∃ b, isBlank b = true ∧ mark = [b, '-']

/-- What is in front of the closing delimiter, with a mark that trims or without. -/
theorem Tokenized.exists_inside {closing : Closing} (h : Tokenized glued s tokens (some closing)) :
    ∃ inside trail, s = inside ++ trail ++ "\x7d\x7d".toList ++ closing.rest ∧
      Tokenized glued inside tokens none ∧ TrailMark trail := by
  generalize ho : some closing = o at h
  induction h with
  | nil => cases ho
  | @trim glued c cs rest hb hs =>
    cases ho
    obtain ⟨blanks, rfl, hbs⟩ := exists_blanks (strip?_eq_some_iff.1 hs)
    have hcs : ∀ d ∈ c :: blanks, isBlank d = true := List.forall_mem_cons.2 ⟨hb, hbs⟩
    have last := List.dropLast_append_getLast (List.cons_ne_nil c blanks)
    refine ⟨(c :: blanks).dropLast, [(c :: blanks).getLast (List.cons_ne_nil c blanks), '-'], ?_, ?_,
      .inr ⟨_, hcs _ (List.getLast_mem _), rfl⟩⟩
    · nth_rewrite 1 [← List.cons_append, ← last]
      simp
    · exact tokenized_blanks fun d hd => hcs d (List.dropLast_subset _ hd)
  | @blank glued c cs tokens o hb hs _ ih =>
    obtain ⟨inside, trail, rfl, hi, ht⟩ := ih ho
    refine ⟨c :: inside, trail, rfl, .blank hb ?_ hi, ht⟩
    rw [List.append_assoc, List.append_assoc] at hs
    exact strip?_trimStart_of_append (by decide) hs
  | @close glued c cs rest hb hs =>
    cases ho
    exact ⟨[], [], strip?_eq_some_iff.1 hs, .nil, .inl rfl⟩
  | @token glued c cs token rest tokens o hb hs hscan _ ih =>
    obtain ⟨inside, trail, rfl, hi, ht⟩ := ih ho
    obtain ⟨l, rfl, -, hlocal⟩ := scanToken_local hscan
    refine ⟨c :: (l ++ inside), trail, by simp, ?_, ht⟩
    have ahead : AlikeAhead inside (inside ++ trail ++ "\x7d\x7d".toList ++ closing.rest) := by
      rw [List.append_assoc, List.append_assoc]
      rcases ht with rfl | ⟨b, hb, rfl⟩
      · have brace : AlikeAhead ('\x7d' :: '\x7d' :: closing.rest) [] :=
          .of_not_isIdentChar (by decide) (by decide) _
        simpa using (brace.append inside).symm
      · exact (AlikeAhead.blank hb _ inside).symm
    have hs' : strip? "\x7d\x7d".toList (c :: (l ++ inside)) = none := by
      rw [strip?_eq_none_iff] at hs ⊢
      refine fun hp => hs (hp.trans ?_)
      simp
    exact .token hb hs' (hlocal _ ahead) hi

end

/-! ## Sources of one action -/

/-- An expression in its delimiters, each with a mark that trims or without. -/
structure Enclosed (p : Pipeline) (front lead inside trail behind s : List Char) : Prop where
  source : s = front ++ "\x7b\x7b".toList ++ (lead ++ (inside ++ trail ++ "\x7d\x7d".toList ++ behind))
  lead : LeadMark lead
  read : readExpression inside = .ok p
  trail : TrailMark trail

section

variable {p : Pipeline} {trims : Bool} {inner : List Char} {closing : Closing}

theorem not_tokensRead_nil : ¬ TokensRead [] p := by
  rintro ⟨⟩

theorem InnerRead.exists_inside (h : InnerRead inner [.action p] closing) :
    ∃ lead inside trail, inner = lead ++ (inside ++ trail ++ "\x7d\x7d".toList ++ closing.rest) ∧
      LeadMark lead ∧ readExpression inside = .ok p ∧ TrailMark trail := by
  cases h with
  | @action tokens _ _ hs ht hp =>
    obtain ⟨inside, trail, hb, hi, htr⟩ := ht.exists_inside
    by_cases hm : trimsBefore inner = true
    · obtain ⟨b, rest, rfl, hbl⟩ := exists_of_trimsBefore hm
      have body : innerBody ('-' :: b :: rest) = b :: rest := if_pos hbl
      rw [body] at hb
      cases hi with
      | nil => exact absurd hp not_tokensRead_nil
      | blank hc _ hi =>
        obtain ⟨rfl, rfl⟩ := List.cons.inj hb
        exact ⟨['-', b], _, trail, rfl, .inr ⟨b, hbl, rfl⟩, readExpression_iff.2 ⟨_, hi, hp⟩, htr⟩
      | token hc =>
        obtain ⟨rfl, -⟩ := List.cons.inj hb
        cases hc.symm.trans hbl
    · have body : innerBody inner = inner := if_neg hm
      rw [body] at hb
      exact ⟨[], inside, trail, hb, .inl rfl, readExpression_iff.2 ⟨_, hi, hp⟩, htr⟩

theorem InnerRead.slash_mem (h : InnerRead inner [] closing) :
    ∃ text, inner = text ++ closing.rest ∧ '/' ∈ text := by
  cases h with
  | @comment text _ hs hc =>
    have body : innerBody inner <:+ inner := by
      unfold innerBody
      split
      · exact List.drop_suffix 1 inner
      · exact List.suffix_rfl
    obtain ⟨before, hbefore⟩ := (trimStart_suffix _).trans body
    obtain ⟨comment, rfl⟩ := closeComment?_suffix hc
    refine ⟨before ++ "/*".toList ++ comment, ?_, by simp⟩
    rw [← hbefore, strip?_eq_some_iff.1 hs]
    simp

theorem isBlank_of_textNodes {front back : Bool} (h : textNodes (trimmed front back s) = []) :
    ∀ c ∈ s, isBlank c = true := by
  have none : trimmed front back s = [] := by
    cases ht : trimmed front back s with
    | nil => rfl
    | cons c text =>
      rw [ht] at h
      cases h
  have start {text : List Char} (h : trimStart text = []) : ∀ c ∈ text, isBlank c = true :=
    List.dropWhile_eq_nil_iff.1 h
  have ends {text : List Char} (h : trimEnd text = []) : ∀ c ∈ text, isBlank c = true := by
    rw [trimEnd, List.reverse_eq_nil_iff, List.dropWhile_eq_nil_iff] at h
    exact fun c hc => h c (List.mem_reverse.2 hc)
  cases front with
  | false =>
    cases back with
    | false =>
      obtain rfl : s = [] := none
      exact List.forall_mem_nil _
    | true => exact ends none
  | true =>
    cases back with
    | false => exact start none
    | true =>
      obtain ⟨blanks, hs, hb⟩ := exists_blanks (rfl : trimStart s = _)
      rw [hs]
      exact List.forall_mem_append.2 ⟨hb, ends none⟩

theorem textNodes_append_eq {text : List Char} {nodes rest : List Node}
    (h : textNodes text ++ nodes = .action p :: rest) :
    textNodes text = [] ∧ nodes = .action p :: rest := by
  cases text with
  | nil => exact ⟨rfl, h⟩
  | cons c text => cases h

theorem SourceRead.slash_or_blank (h : SourceRead trims s []) :
    '/' ∈ s ∨ ∀ c ∈ s, isBlank c = true := by
  generalize hn : [] = nodes at h
  cases h with
  | text => exact .inr (isBlank_of_textNodes hn.symm)
  | @mark _ _ before inner own closing rest hc hi hr =>
    have none : own = [] := (List.append_eq_nil_iff.1 (List.append_eq_nil_iff.1 hn.symm).1).2
    rw [none] at hi
    obtain ⟨text, rfl, slash⟩ := hi.slash_mem
    rw [eq_of_cut? hc]
    exact .inl (List.mem_append_right _ (List.mem_append_left _ slash))

/-- What stands beside the one action of a source is blank or has a slash, as comments have. -/
theorem SourceRead.exists_enclosed (h : SourceRead trims s [.action p]) :
    ∃ front lead inside trail behind, Enclosed p front lead inside trail behind s ∧
      ('/' ∈ front ∨ ∀ c ∈ front, isBlank c = true) ∧
      ('/' ∈ behind ∨ ∀ c ∈ behind, isBlank c = true) := by
  generalize hn : [Node.action p] = nodes at h
  induction h with
  | text => exact absurd (hn ▸ List.mem_singleton_self _) (action_notMem_textNodes _)
  | @mark trims s before inner own closing rest hc hi hr ih =>
    rw [List.append_assoc] at hn
    obtain ⟨none, nodes⟩ := textNodes_append_eq hn.symm
    rcases hi.nodes_eq with rfl | ⟨q, rfl⟩
    · obtain ⟨text, rfl, slash⟩ := hi.slash_mem
      obtain ⟨front, lead, inside, trail, behind, h, hf, hb⟩ := ih nodes.symm
      refine ⟨before ++ "\x7b\x7b".toList ++ text ++ front, lead, inside, trail, behind,
        ⟨?_, h.lead, h.read, h.trail⟩, .inl (List.mem_append_left _ (List.mem_append_right _ slash)), hb⟩
      rw [eq_of_cut? hc, h.source]
      simp only [List.append_assoc]
    · obtain ⟨hq, rfl⟩ := List.cons.inj nodes
      cases hq
      obtain ⟨lead, inside, trail, rfl, hl, he, ht⟩ := hi.exists_inside
      exact ⟨before, lead, inside, trail, closing.rest, ⟨eq_of_cut? hc, hl, he, ht⟩,
        .inr (isBlank_of_textNodes none), hr.slash_or_blank⟩

end

end Rollout.Template
