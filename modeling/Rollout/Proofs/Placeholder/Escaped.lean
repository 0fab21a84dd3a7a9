import Rollout.Proofs.Placeholder.Written
import Rollout.Proofs.Template.Alike
import Rollout.Proofs.Template.Locality

/-!
# Reading past escape marks

A text whose sentinels carry the escape mark is read like the text without these marks. An at sign
starts no token, so a sentinel stands in a quoted text, in a comment or between the actions. No scan
stops inside it there, and what is read differs in texts only (`sourceRead_written`).
-/

namespace Rollout.Placeholder

open Text Template

variable {e : Bool} {ps : List Piece}

/-! ## Tokens -/

/-- What a quoted text adds to the text behind its first pieces, with marks and without. -/
def Quotes (ps front rest : List Piece) : Prop :=
  rest <:+ ps ∧ ∀ e, scanQuoted (written e ps) =
    (scanQuoted (written e rest)).map fun r => (written e front ++ r.1, r.2)

theorem scanQuoted_mark (e : Bool) {x y : List Char} (h : markText e = x ++ y) (s : List Char) :
    scanQuoted (y ++ s) = (scanQuoted s).map fun r => (y ++ r.1, r.2) := by
  have hm {a : Char} (ha : a ∉ "@ANSIBLE~".toList) : a ∉ y := by
    have := notMem_markText ha e
    rw [h, List.mem_append, not_or] at this
    exact this.2
  exact scanQuoted_append (hm (by decide)) (hm (by decide)) s

theorem scanQuoted_written (ps : List Piece) :
    (∀ e, scanQuoted (written e ps) = none) ∨ ∃ cs qs, qs <:+ ps ∧
      ∀ e, scanQuoted (written e ps) = some (written e cs, written e qs) := by
  induction hn : ps.length using Nat.strongRecOn generalizing ps with
  | ind n ih =>
    have extend (front rest : List Piece) (hl : rest.length < n) (h : Quotes ps front rest) :
        (∀ e, scanQuoted (written e ps) = none) ∨ ∃ cs qs, qs <:+ ps ∧
          ∀ e, scanQuoted (written e ps) = some (written e cs, written e qs) := by
      obtain ⟨hr, hs⟩ := h
      rcases ih rest.length hl rest rfl with hn | ⟨cs, qs, hq, hc⟩
      · exact .inl fun e => by rw [hs, hn, Option.map_none]
      · exact .inr ⟨front ++ cs, qs, hq.trans hr,
          fun e => by rw [hs, hc, Option.map_some, written_append]⟩
    subst hn
    match ps with
    | [] => exact .inl fun _ => rfl
    | .plain c :: rest =>
      by_cases hq : c = '"'
      · subst hq
        exact .inr ⟨[], rest, List.suffix_cons _ _, fun _ => rfl⟩
      by_cases hb : c = '\\'
      · subst hb
        match rest with
        | [] => exact .inl fun _ => rfl
        | .plain d :: rest =>
          let d' := if d = 'n' then '\n' else if d = 't' then '\t' else d
          refine extend [.plain d'] rest (by simp only [List.length_cons]; omega)
            ⟨?_, fun e => rfl⟩
          exact (List.suffix_cons _ rest).trans (List.suffix_cons _ _)
        | .marked :: rest | .reserved _ :: rest =>
          -- The backslash takes the at sign; the rest of the sentinel is quoted as it stands.
          refine extend [.marked] rest (by simp only [List.length_cons]; omega)
            ⟨?_, fun e => ?_⟩
          · exact (List.suffix_cons _ rest).trans (List.suffix_cons _ _)
          · obtain ⟨t, ht⟩ := markText_eq_cons e
            have hm := scanQuoted_mark e (x := ['@']) ht (written e rest)
            have hs : scanQuoted ('\\' :: '@' :: (t ++ written e rest)) =
                (scanQuoted (t ++ written e rest)).map fun r => ('@' :: r.1, r.2) := rfl
            simp only [written, ht, List.cons_append, List.append_nil]
            rw [hs, hm, Option.map_map]
            rfl
      · refine extend [.plain c] rest (by simp) ⟨List.suffix_cons _ _, fun e => ?_⟩
        exact scanQuoted_cons hq hb (written e rest)
    | .marked :: rest | .reserved _ :: rest =>
      refine extend [.marked] rest (by simp) ⟨List.suffix_cons _ _, fun e => ?_⟩
      simp only [written, List.append_nil]
      exact scanQuoted_mark e (x := []) rfl (written e rest)

theorem scanPath_written (ps : List Piece) :
    ∃ path qs, qs <:+ ps ∧ ∀ e, scanPath (written e ps) = (path, written e qs) := by
  induction hn : ps.length using Nat.strongRecOn generalizing ps with
  | ind n ih =>
    by_cases hs : startsPath (written false ps) = true
    · obtain ⟨c, cs, hw, hc⟩ := exists_of_startsPath hs
      have hx : '@' ∉ ['.', c] := by
        intro hm
        rcases List.mem_cons.1 hm with he | hm
        · exact absurd he (by decide)
        · rw [← List.mem_singleton.1 hm] at hc
          exact absurd hc (by decide)
      obtain ⟨rest, rfl, -⟩ := exists_of_written_eq hx (hw : _ = ['.', c] ++ cs)
      obtain ⟨word, behind, rfl, hb⟩ := takeWhile_written (p := isIdentChar) (by decide) rest
      have hl : behind.length < n := by
        simp only [← hn, List.length_append, List.length_map, List.length_cons]
        omega
      obtain ⟨path, qs, hq, hp⟩ := ih behind.length hl behind rfl
      refine ⟨String.ofList (c :: word) :: path, qs, hq.trans ?_, fun e => ?_⟩
      · exact (List.suffix_append _ _).trans (List.suffix_append _ _)
      · obtain ⟨ht, hd⟩ := hb e
        have he : written e (['.', c].map .plain ++ (word.map .plain ++ behind)) =
            '.' :: c :: written e (word.map .plain ++ behind) := rfl
        rw [he, scanPath_name hc, ht, hd, hp e]
    · refine ⟨[], ps, List.suffix_rfl, fun e => ?_⟩
      rw [Bool.not_eq_true, ← startsPath_congr (written_take_two ps e false)] at hs
      exact scanPath_of_not_startsPath hs

/-- Texts that are the same but for the marks behind sentinels. -/
def Rewritten (e e' : Bool) (s t : String) : Prop :=
  ∃ cs, s.toList = written e cs ∧ t.toList = written e' cs

theorem Rewritten.refl (e e' : Bool) (s : String) : Rewritten e e' s s :=
  ⟨s.toList.map .plain, (written_plain e _).symm, (written_plain e' _).symm⟩

theorem alike_refl (e e' : Bool) (token : Token) : token.Alike (Rewritten e e') token := by
  cases token with
  | text s => exact ⟨s, rfl, .refl e e' s⟩
  | _ => rfl

/-- Whether a scan of a text with marks and without fails in both, or finds tokens that are alike. -/
def ScansAlike (ps : List Piece) (scan : Bool → Except TemplateError (Token × List Char)) : Prop :=
  (∀ e, ∃ error, scan e = .error error) ∨
    ∃ (token : Bool → Token) (qs : List Piece), qs <:+ ps ∧
      (∀ e e', (token e).Alike (Rewritten e e') (token e')) ∧
        ∀ e, scan e = .ok (token e, written e qs)

section

variable {qs : List Piece} {scan : Bool → Except TemplateError (Token × List Char)}

theorem ScansAlike.same {token : Token} (hq : qs <:+ ps)
    (h : ∀ e, scan e = .ok (token, written e qs)) : ScansAlike ps scan :=
  .inr ⟨fun _ => token, qs, hq, fun e e' => alike_refl e e' token, h⟩

theorem ScansAlike.text (cs : List Piece) (hq : qs <:+ ps)
    (h : ∀ e, scan e = .ok (.text (String.ofList (written e cs)), written e qs)) :
    ScansAlike ps scan := by
  refine .inr ⟨fun e => .text (String.ofList (written e cs)), qs, hq, fun e e' => ?_, h⟩
  exact ⟨_, rfl, cs, String.toList_ofList, String.toList_ofList⟩

theorem ScansAlike.of_suffix (h : ScansAlike qs scan) (hq : qs <:+ ps) : ScansAlike ps scan := by
  rcases h with he | ⟨token, rest, hr, ha, hs⟩
  · exact .inl he
  · exact .inr ⟨token, rest, hr.trans hq, ha, hs⟩

end

theorem scanInt_written (pos : Nat) (negative : Bool) (ps : List Piece) :
    ScansAlike ps fun e => scanInt pos negative (written e ps) := by
  obtain ⟨digits, qs, hq, hw⟩ := takeWhile_written (p := Char.isDigit) (by decide) ps
  unfold scanInt
  simp only [hw]
  by_cases hd : digits.isEmpty = true
  · exact .inl fun e => ⟨_, if_pos hd⟩
  cases hv : int64OfDigits? negative digits with
  | none => exact .inl fun e => ⟨_, if_neg hd⟩
  | some value => exact .same (suffix_of_plain hq) fun e => if_neg hd

theorem scanToken_dot {cs rest : List Char} {path : List String}
    (h : scanPath ('.' :: cs) = (path, rest)) (pos : Nat) (glued : Bool) :
    scanToken pos glued ('.' :: cs) = if path = [] then .ok (.dot, cs)
      else .ok (if glued then .chain path else .field path, rest) := by
  simp only [scanToken, h]
  cases path <;> rfl

theorem scanToken_of_notMem {c : Char} (h : c ∉ ['(', ')', '|', '"', '\x60', '-', '.'])
    (pos : Nat) (glued : Bool) (s : List Char) :
    scanToken pos glued (c :: s) =
      if c.isDigit then scanInt pos false (c :: s)
      else if isIdentStart c then
        .ok (wordToken (String.ofList (c :: s.takeWhile isIdentChar)), s.dropWhile isIdentChar)
      else .error (.unexpected (.source (String.singleton c)) pos) := by
  rw [scanToken] <;> rintro rfl <;> exact h (by decide)

theorem scanToken_written (pos : Nat) (glued : Bool) (ps : List Piece) :
    ScansAlike ps fun e => scanToken pos glued (written e ps) := by
  match ps with
  | [] => exact .inl fun e => ⟨_, rfl⟩
  | .marked :: rest | .reserved _ :: rest =>
    refine .inl fun e => ⟨.unexpected (.source (String.singleton '@')) pos, ?_⟩
    obtain ⟨t, ht⟩ := markText_eq_cons e
    simp only [written, ht, List.cons_append]
    exact scanToken_of_notMem (by decide) pos glued _
  | .plain c :: rest =>
    have hr : rest <:+ .plain c :: rest := List.suffix_cons _ _
    simp only [written]
    by_cases hc : c ∈ ['(', ')', '|', '"', '\x60', '-', '.']
    · rcases List.mem_cons.1 hc with rfl | hc
      · exact .same hr fun _ => rfl
      rcases List.mem_cons.1 hc with rfl | hc
      · exact .same hr fun _ => rfl
      rcases List.mem_cons.1 hc with rfl | hc
      · exact .same hr fun _ => rfl
      rcases List.mem_cons.1 hc with rfl | hc
      · rcases scanQuoted_written rest with hn | ⟨cs, qs, hq, hs⟩
        · exact .inl fun e => ⟨.unterminatedString pos, by simp only [scanToken, hn e]⟩
        · exact .text cs (hq.trans hr) fun e => by simp only [scanToken, hs e]
      rcases List.mem_cons.1 hc with rfl | hc
      · rcases cut?_written (a := '\x60') (p := []) (by decide) List.not_mem_nil rest with
          hn | ⟨cs, qs, hq, hs⟩
        · exact .inl fun e => ⟨.unterminatedString pos, by simp only [scanToken, hn e]⟩
        · have hq : qs <:+ rest := ⟨_, hq.symm⟩
          exact .text cs (hq.trans hr) fun e => by simp only [scanToken, hs e]
      rcases List.mem_cons.1 hc with rfl | hc
      · exact (scanInt_written pos true rest).of_suffix hr
      · obtain rfl := List.mem_singleton.1 hc
        obtain ⟨path, qs, hq, hp⟩ := scanPath_written (.plain '.' :: rest)
        simp only [fun e => scanToken_dot (hp e) pos glued]
        by_cases hn : path = []
        · exact .same hr fun _ => if_pos hn
        · exact .same hq fun _ => if_neg hn
    · simp only [scanToken_of_notMem hc]
      by_cases hd : c.isDigit = true
      · simp only [if_pos hd]
        exact scanInt_written pos false (.plain c :: rest)
      simp only [if_neg hd]
      by_cases hi : isIdentStart c = true
      · obtain ⟨word, qs, hq, hw⟩ := takeWhile_written (p := isIdentChar) (by decide) rest
        simp only [if_pos hi, hw]
        exact .same ((suffix_of_plain hq).trans hr) fun _ => rfl
      · exact .inl fun _ => ⟨_, if_neg hi⟩

theorem scanToken_alike {pos : Nat} {glued : Bool} {token : Token} {rest : List Char}
    (h : scanToken pos glued (written e ps) = .ok (token, rest)) (e' : Bool) :
    ∃ token' qs, qs <:+ ps ∧ rest = written e qs ∧ token.Alike (Rewritten e e') token' ∧
      scanToken pos glued (written e' ps) = .ok (token', written e' qs) := by
  rcases scanToken_written pos glued ps with he | ⟨scanned, qs, hq, ha, hs⟩
  · obtain ⟨error, he⟩ := he e
    exact nomatch h.symm.trans he
  · have hr := h.symm.trans (hs e)
    cases hr
    exact ⟨scanned e', qs, hq, rfl, ha e e', hs e'⟩

theorem tokenized_written {glued : Bool} {s : List Char} {tokens : List Token} {closing : Closing}
    (h : Tokenized glued s tokens (some closing)) {e : Bool} {ps : List Piece} (hs : s = written e ps)
    (e' : Bool) : ∃ tokens' qs, qs <:+ ps ∧ closing.rest = written e qs ∧
      List.Forall₂ (Token.Alike (Rewritten e e')) tokens tokens' ∧
      Tokenized glued (written e' ps) tokens' (some ⟨written e' qs, closing.trims⟩) := by
  have blank {c : Char} {cs : List Char} (hb : isBlank c = true) {ps : List Piece}
      (hs : c :: cs = written e ps) : ∃ qs, ps = .plain c :: qs ∧ cs = written e qs := by
    have hc : '@' ∉ [c] := fun hm => blank_ne hb rfl (List.mem_singleton.1 hm).symm
    exact exists_of_written_eq hc hs.symm
  generalize ho : some closing = o at h
  induction h generalizing ps with
  | nil => cases ho
  | @trim glued c cs rest hb hm =>
    cases ho
    obtain ⟨ps, rfl, rfl⟩ := blank hb hs
    obtain ⟨behind, hw, ht⟩ := trimStart_written ps
    rw [ht e] at hm
    obtain ⟨qs, hq, rfl, hm'⟩ := strip?_some_written (by decide) hm
    refine ⟨[], qs, (hq.trans hw).trans (List.suffix_cons _ _), rfl, .nil, .trim hb ?_⟩
    rw [ht e', hm' e']
  | @blank glued c cs tokens o hb hm _ ih =>
    obtain ⟨ps, rfl, rfl⟩ := blank hb hs
    obtain ⟨behind, -, ht⟩ := trimStart_written ps
    obtain ⟨tokens', qs, hq, hr, ha, hd⟩ := ih rfl ho
    refine ⟨tokens', qs, hq.trans (List.suffix_cons _ _), hr, ha, .blank hb ?_ hd⟩
    rw [ht e] at hm
    rw [ht e', strip?_none_written (by decide) hm e']
  | @close glued c cs rest hb hm =>
    cases ho
    rw [hs] at hm
    obtain ⟨cs', hs'⟩ := exists_cons_of_written hs.symm e'
    obtain ⟨qs, hq, rfl, hm'⟩ := strip?_some_written (by decide) hm
    have hm' := hm' e'
    rw [hs'] at hm' ⊢
    exact ⟨[], qs, hq, rfl, .nil, .close hb hm'⟩
  | @token glued c cs token rest tokens o hb hm ht _ ih =>
    rw [hs] at hm ht
    obtain ⟨cs', hs'⟩ := exists_cons_of_written hs.symm e'
    obtain ⟨token', qs, hq, rfl, ha, ht'⟩ := scanToken_alike ht e'
    obtain ⟨tokens', rs, hr, hc, has, hd⟩ := ih rfl ho
    have hm' := strip?_none_written (by decide) hm e'
    rw [ha.closeGroup_iff] at hd
    rw [hs'] at hm' ht' ⊢
    exact ⟨token' :: tokens', rs, hr.trans hq, hc, .cons ha has, .token hb hm' ht' hd⟩

/-! ## Actions and comments -/

theorem cut?_behind_written {text x rest : List Char} (hx : '@' ∉ x)
    (h : cut? "*/".toList (written e ps) = some (text, x ++ rest)) (e' : Bool) :
    ∃ text' qs, qs <:+ ps ∧ rest = written e qs ∧
      cut? "*/".toList (written e' ps) = some (text', x ++ written e' qs) := by
  obtain ⟨bs, behind, -, hb, -, hr, hc⟩ := cut?_some_written (by decide) (by decide) h
  obtain ⟨qs, rfl, rfl⟩ := exists_of_written_eq hx hr.symm
  have hc := hc e'
  rw [written_append, written_plain] at hc
  exact ⟨written e' bs, qs, (List.suffix_append _ _).trans hb, rfl, hc⟩

theorem closeComment?_written {closing : Closing} (h : closeComment? (written e ps) = some closing)
    (e' : Bool) : ∃ qs, qs <:+ ps ∧ closing.rest = written e qs ∧
      closeComment? (written e' ps) = some ⟨written e' qs, closing.trims⟩ := by
  rw [commentEnds_iff] at h
  have end_notMem {blanks mark : List Char} (hb : ∀ c ∈ blanks, isBlank c = true) (hm : '@' ∉ mark) :
      '@' ∉ blanks ++ mark := by
    rw [List.mem_append, not_or]
    exact ⟨fun h => blank_ne (hb _ h) rfl rfl, hm⟩
  cases h with
  | trim hc hb hne =>
    rw [← List.append_assoc] at hc
    obtain ⟨text, qs, hq, hr, hc'⟩ := cut?_behind_written (end_notMem hb (by decide)) hc e'
    rw [List.append_assoc] at hc'
    exact ⟨qs, hq, hr, commentEnds_iff.2 (.trim hc' hb hne)⟩
  | plain hc hb =>
    rw [← List.append_assoc] at hc
    obtain ⟨text, qs, hq, hr, hc'⟩ := cut?_behind_written (end_notMem hb (by decide)) hc e'
    rw [List.append_assoc] at hc'
    exact ⟨qs, hq, hr, commentEnds_iff.2 (.plain hc' hb)⟩

theorem innerBody_written (ps : List Piece) :
    ∃ qs, qs <:+ ps ∧ ∀ e, innerBody (written e ps) = written e qs := by
  unfold innerBody
  simp only [trimsBefore_written]
  split
  · rename_i h
    obtain ⟨c, s, hs, -⟩ := exists_of_trimsBefore ((trimsBefore_written false ps).trans h)
    obtain ⟨qs, rfl, -⟩ := exists_of_written_eq (x := ['-']) (by decide) hs
    exact ⟨qs, List.suffix_cons _ _, fun _ => rfl⟩
  · exact ⟨ps, List.suffix_rfl, fun _ => rfl⟩

/-- Nodes of a text with marks and without: the same pieces of it, or actions that are alike. -/
inductive NodesAlike (whole : List Piece) (e e' : Bool) : Node → Node → Prop where
  | text {pieces} : pieces <:+: whole →
      NodesAlike whole e e' (.text (String.ofList (written e pieces)))
        (.text (String.ofList (written e' pieces)))
  | action {pipeline pipeline'} : Pipeline.Alike (Rewritten e e') pipeline pipeline' →
      NodesAlike whole e e' (.action pipeline) (.action pipeline')

theorem innerRead_written {nodes : List Node} {closing : Closing}
    (h : InnerRead (written e ps) nodes closing) (whole : List Piece) (e' : Bool) :
    ∃ nodes' qs, qs <:+ ps ∧ closing.rest = written e qs ∧
      List.Forall₂ (NodesAlike whole e e') nodes nodes' ∧
      InnerRead (written e' ps) nodes' ⟨written e' qs, closing.trims⟩ := by
  obtain ⟨body, hbody, hb⟩ := innerBody_written ps
  obtain ⟨behind, hw, ht⟩ := trimStart_written body
  cases h with
  | comment hs hc =>
    rw [hb, ht] at hs
    obtain ⟨text, hq, rfl, hs'⟩ := strip?_some_written (by decide) hs
    obtain ⟨qs, hqs, hr, hc'⟩ := closeComment?_written hc e'
    refine ⟨[], qs, ?_, hr, .nil, .comment ?_ hc'⟩
    · exact ((hqs.trans hq).trans hw).trans hbody
    · rw [hb, ht, hs']
  | action hs hk hp =>
    rw [hb, ht] at hs
    rw [hb] at hk
    obtain ⟨tokens', qs, hq, hr, ha, hk'⟩ := tokenized_written hk rfl e'
    obtain ⟨pipeline', hp', hpa⟩ := hp.alike ha
    refine ⟨[.action pipeline'], qs, hq.trans hbody, hr, .cons (.action hpa) .nil, ?_⟩
    have hs' := strip?_none_written (by decide) hs e'
    rw [← ht e', ← hb e'] at hs'
    rw [← hb e'] at hk'
    exact .action hs' hk' hp'

/-! ## Sources -/

theorem textNodes_written {whole : List Piece} (h : ps <:+: whole) (front back e e' : Bool) :
    List.Forall₂ (NodesAlike whole e e') (textNodes (trimmed front back (written e ps)))
      (textNodes (trimmed front back (written e' ps))) := by
  rw [trimmed_written, trimmed_written]
  have hw : trimmedPieces front back ps <:+: whole := (trimmedPieces_isInfix front back ps).trans h
  generalize trimmedPieces front back ps = pieces at hw
  cases hc : written e pieces with
  | nil =>
    cases hc' : written e' pieces with
    | nil => exact .nil
    | cons c s =>
      obtain ⟨s', hs⟩ := exists_cons_of_written hc' e
      exact nomatch hc.symm.trans hs
  | cons c s =>
    obtain ⟨s', hc'⟩ := exists_cons_of_written hc e'
    have ht : NodesAlike whole e e' _ _ := .text hw
    rw [hc, hc'] at ht
    rw [hc']
    exact .cons ht .nil

/-- A text is read with marks as without: either both are a template, and their nodes are alike, or
neither is. -/
theorem sourceRead_written {trims : Bool} {s : List Char} {nodes : List Node}
    (h : SourceRead trims s nodes) {e : Bool} {ps whole : List Piece} (hs : s = written e ps)
    (hw : ps <:+ whole) (e' : Bool) :
    ∃ nodes', SourceRead trims (written e' ps) nodes' ∧
      List.Forall₂ (NodesAlike whole e e') nodes nodes' := by
  induction h generalizing ps with
  | text hc =>
    rw [hs] at hc
    rw [hs]
    exact ⟨_, .text (cut?_none_written (by decide) (by decide) hc e'),
      textNodes_written hw.isInfix _ _ e e'⟩
  | @mark trims s before inner nodes closing rest hc hi _ ih =>
    rw [hs] at hc
    obtain ⟨bs, qs, hb, hq, rfl, rfl, hc'⟩ := cut?_some_written (by decide) (by decide) hc
    obtain ⟨nodes', rs, hr, hcr, hn, hi'⟩ := innerRead_written hi whole e'
    obtain ⟨rest', hs', hrest⟩ := ih hcr ((hr.trans hq).trans hw)
    refine ⟨_, .mark (hc' e') hi' hs', ?_⟩
    rw [trimsBefore_written, trimsBefore_written]
    refine List.rel_append (List.rel_append ?_ hn) hrest
    exact textNodes_written (hb.trans hw.isInfix) _ _ e e'

end Rollout.Placeholder
