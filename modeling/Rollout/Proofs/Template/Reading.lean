import Rollout.Proofs.Outcome
import Rollout.Template.Scope

/-!
# Reading without positions

Positions serve error messages only. Where reading succeeds it is described by rules that leave them
out, one rule for each thing a scan can meet (`parse_iff`).
-/

namespace Rollout.Template

open Text

/-! ## Tokens -/

theorem scanInt_pos {pos : Nat} {negative : Bool} {s : List Char} {r : Token × List Char}
    (h : scanInt pos negative s = .ok r) (pos' : Nat) : scanInt pos' negative s = .ok r := by
  unfold scanInt at h ⊢
  simp only at h ⊢
  split at h
  · cases h
  · rename_i hd
    rw [if_neg hd]
    split at h
    · exact h
    · cases h

theorem scanToken_pos {pos : Nat} {glued : Bool} {s : List Char} {r : Token × List Char}
    (h : scanToken pos glued s = .ok r) (pos' : Nat) : scanToken pos' glued s = .ok r := by
  unfold scanToken at h ⊢
  split at h
  · cases h
  · exact h
  · exact h
  · exact h
  · split at h
    · exact h
    · cases h
  · split at h
    · exact h
    · cases h
  · exact scanInt_pos h pos'
  · exact h
  · split at h
    · rename_i hd
      rw [if_pos hd]
      exact scanInt_pos h pos'
    · rename_i hd
      rw [if_neg hd]
      split at h
      · rename_i hi
        rw [if_pos hi]
        exact h
      · cases h

/-- The tokens of a text up to its closing delimiter, if it has one. -/
inductive Tokenized : (glued : Bool) → List Char → List Token → Option Closing → Prop where
  | nil {glued} : Tokenized glued [] [] none
  | trim {glued c cs rest} : isBlank c = true →
      strip? "-\x7d\x7d".toList (trimStart cs) = some rest →
      Tokenized glued (c :: cs) [] (some ⟨rest, true⟩)
  | blank {glued c cs tokens closing} : isBlank c = true →
      strip? "-\x7d\x7d".toList (trimStart cs) = none → Tokenized false cs tokens closing →
      Tokenized glued (c :: cs) tokens closing
  | close {glued c cs rest} : isBlank c = false → strip? "\x7d\x7d".toList (c :: cs) = some rest →
      Tokenized glued (c :: cs) [] (some ⟨rest, false⟩)
  | token {glued c cs token rest tokens closing} : isBlank c = false →
      strip? "\x7d\x7d".toList (c :: cs) = none → scanToken 0 glued (c :: cs) = .ok (token, rest) →
      Tokenized (token = .closeGroup) rest tokens closing →
      Tokenized glued (c :: cs) (token :: tokens) closing

theorem Tokenized.behind_blank {glued : Bool} {c : Char} {cs : List Char} {tokens : List Token}
    {closing : Option Closing} (h : Tokenized glued (c :: cs) tokens closing) (hb : isBlank c = true)
    (hs : strip? "-\x7d\x7d".toList (trimStart cs) = none) : Tokenized false cs tokens closing := by
  cases h with
  | trim _ hs' => cases hs.symm.trans hs'
  | blank _ _ h => exact h
  | close hb' => cases hb.symm.trans hb'
  | token hb' => cases hb.symm.trans hb'

theorem Tokenized.behind_token {glued : Bool} {c : Char} {cs : List Char} {tokens : List Token}
    {closing : Option Closing} (h : Tokenized glued (c :: cs) tokens closing) (hb : isBlank c = false)
    (hs : strip? "\x7d\x7d".toList (c :: cs) = none) :
    ∃ token rest behind, scanToken 0 glued (c :: cs) = .ok (token, rest) ∧ tokens = token :: behind ∧
      Tokenized (token = .closeGroup) rest behind closing := by
  cases h with
  | trim hb' => cases hb.symm.trans hb'
  | blank hb' => cases hb.symm.trans hb'
  | close _ hs' => cases hs.symm.trans hs'
  | token _ _ ht h => exact ⟨_, _, _, ht, rfl, h⟩

theorem tokenized_of_tokenize {total : Nat} {glued : Bool} {s : List Char} {located : List Located}
    {closing : Option Closing} (h : tokenize total glued s = .ok (located, closing)) :
    Tokenized glued s (located.map (·.token)) closing := by
  induction hn : s.length using Nat.strongRecOn generalizing s glued located with
  | ind n ih =>
    cases s with
    | nil =>
      cases h
      exact .nil
    | cons c cs =>
      rw [tokenize_cons] at h
      split at h
      · rename_i hb
        split at h
        · rename_i hs
          cases h
          exact .trim hb hs
        · rename_i hs
          exact .blank hb hs (ih cs.length (by simp [← hn]) h rfl)
      · rename_i hb
        rw [Bool.not_eq_true] at hb
        split at h
        · rename_i hs
          cases h
          exact .close hb hs
        · rename_i hs
          obtain ⟨⟨token, rest⟩, ht, h⟩ := bind_eq_ok.1 h
          obtain ⟨⟨located', closing'⟩, hr, h⟩ := bind_eq_ok.1 h
          cases h
          have lt : rest.length < n := by
            have := (scanToken_suffix ht).length_le
            simp only [← hn, List.length_cons]
            omega
          exact .token hb hs (scanToken_pos ht 0) (ih rest.length lt hr rfl)

theorem tokenize_of_tokenized {glued : Bool} {s : List Char} {tokens : List Token}
    {closing : Option Closing} (h : Tokenized glued s tokens closing) (total : Nat) :
    ∃ located, tokenize total glued s = .ok (located, closing) ∧
      located.map (·.token) = tokens := by
  induction h with
  | nil => exact ⟨[], rfl, rfl⟩
  | trim hb hs => exact ⟨[], by rw [tokenize_cons, if_pos hb, hs], rfl⟩
  | blank hb hs _ ih =>
    obtain ⟨located, hl, ht⟩ := ih
    refine ⟨located, ?_, ht⟩
    rw [tokenize_cons, if_pos hb, hs]
    exact hl
  | close hb hs => exact ⟨[], by rw [tokenize_cons, if_neg (by simp [hb]), hs], rfl⟩
  | @token glued c cs token rest tokens closing hb hs ht _ ih =>
    obtain ⟨located, hl, hm⟩ := ih
    let pos := total - byteLength (c :: cs)
    refine ⟨⟨token, pos⟩ :: located, ?_, by rw [List.map_cons, hm]⟩
    rw [tokenize_cons, if_neg (by simp [hb]), hs]
    exact bind_eq_ok.2 ⟨_, scanToken_pos ht pos, bind_eq_ok.2 ⟨_, hl, rfl⟩⟩

/-! ## Pipelines -/

theorem readFrom_pos {last last' : Nat} {draft : Draft} {groups groups' : List (Draft × Nat)}
    {located located' : List Located} {pipeline : Pipeline}
    (h : readFrom last draft groups located = .ok pipeline)
    (hg : groups'.map (·.1) = groups.map (·.1))
    (hl : located'.map (·.token) = located.map (·.token)) :
    readFrom last' draft groups' located' = .ok pipeline := by
  induction located generalizing draft groups groups' located' with
  | nil =>
    rw [List.map_nil, List.map_eq_nil_iff] at hl
    subst hl
    unfold readFrom at h ⊢
    split at h
    · cases h
    · rename_i hc
      rw [List.map_nil, List.map_eq_nil_iff] at hg
      rw [hc, hg]
      exact h
    · cases h
  | cons l rest ih =>
    obtain ⟨token, pos⟩ := l
    obtain ⟨⟨token', pos'⟩, rest', rfl⟩ : ∃ l' rest', located' = l' :: rest' := by
      cases located' with
      | nil => cases hl
      | cons l' rest' => exact ⟨l', rest', rfl⟩
    simp only [List.map_cons, List.cons.injEq] at hl
    obtain ⟨rfl, hr⟩ := hl
    cases token' with
    | dot | field | int | text | truth | nothing =>
      simp only [readFrom] at h ⊢
      exact ih h hg hr
    | ident name =>
      simp only [readFrom] at h ⊢
      split at h
      · exact ih h hg hr
      · cases h
    | chain path =>
      simp only [readFrom] at h ⊢
      split at h
      · exact ih h hg hr
      · cases h
    | openGroup =>
      simp only [readFrom] at h ⊢
      exact ih h (by rw [List.map_cons, List.map_cons, hg]) hr
    | closeGroup =>
      simp only [readFrom] at h ⊢
      split at h
      · cases h
      · cases h
      · rename_i pipeline' outer pos groups hc
        obtain ⟨⟨outer', pos''⟩, groups'', rfl⟩ : ∃ g groups'', groups' = g :: groups'' := by
          cases groups' with
          | nil => cases hg
          | cons g groups'' => exact ⟨g, groups'', rfl⟩
        simp only [List.map_cons, List.cons.injEq] at hg
        obtain ⟨rfl, hg⟩ := hg
        rw [hc]
        exact ih h hg hr
    | pipe =>
      simp only [readFrom] at h ⊢
      split at h
      · cases h
      · exact ih h hg hr

/-- The pipeline that a row of tokens is read as, wherever they stand. -/
def TokensRead (tokens : List Token) (pipeline : Pipeline) : Prop :=
  readPipeline 0 (tokens.map (⟨·, 0⟩)) = .ok pipeline

theorem readPipeline_iff {start : Nat} {located : List Located} {pipeline : Pipeline} :
    readPipeline start located = .ok pipeline ↔ TokensRead (located.map (·.token)) pipeline := by
  have hl : ((located.map (·.token)).map (⟨·, 0⟩ : Token → Located)).map (·.token) =
      located.map (·.token) := by
    rw [List.map_map]
    exact List.map_id _
  constructor
  · intro h
    exact readFrom_pos h rfl hl
  · intro h
    exact readFrom_pos h rfl hl.symm

/-! ## Actions and comments -/

/-- A text behind an opening delimiter without the mark that trims what is before it. -/
def innerBody (inner : List Char) : List Char :=
  if trimsBefore inner then inner.drop 1 else inner

/-- What a text behind an opening delimiter starts with: a comment, which is no node, or an action. -/
inductive InnerRead (inner : List Char) : List Node → Closing → Prop where
  | comment {text closing} : strip? "/*".toList (trimStart (innerBody inner)) = some text →
      closeComment? text = some closing → InnerRead inner [] closing
  | action {tokens pipeline closing} : strip? "/*".toList (trimStart (innerBody inner)) = none →
      Tokenized false (innerBody inner) tokens (some closing) → TokensRead tokens pipeline →
      InnerRead inner [.action pipeline] closing

theorem innerRead_of_readInner {total pos : Nat} {inner : List Char} {segments : List Segment}
    {closing : Closing} {nodes : List Node}
    (h : readInner total pos inner = .ok (segments, closing))
    (hn : nodesOfSegments segments = .ok nodes) : InnerRead inner nodes closing := by
  unfold readInner at h
  simp only at h
  rw [← innerBody] at h
  split at h
  · rename_i hs
    split at h
    · rename_i hc
      cases h
      cases hn
      exact .comment hs hc
    · cases h
  · rename_i hs
    obtain ⟨⟨located, closing'⟩, ht, h⟩ := bind_eq_ok.1 h
    cases closing' with
    | none => cases h
    | some closing' =>
      cases h
      obtain ⟨pipeline, hp, hn⟩ := bind_eq_ok.1 hn
      cases hn
      exact .action hs (tokenized_of_tokenize ht) (readPipeline_iff.1 hp)

theorem readInner_of_innerRead {inner : List Char} {nodes : List Node} {closing : Closing}
    (h : InnerRead inner nodes closing) (total pos : Nat) :
    ∃ segments, readInner total pos inner = .ok (segments, closing) ∧
      nodesOfSegments segments = .ok nodes := by
  unfold readInner
  simp only
  rw [← innerBody]
  cases h with
  | comment hs hc => exact ⟨[], by rw [hs]; simp only [hc], rfl⟩
  | action hs ht hp =>
    obtain ⟨located, hl, rfl⟩ := tokenize_of_tokenized ht total
    refine ⟨[.action located pos], ?_, bind_eq_ok.2 ⟨_, readPipeline_iff.2 hp, rfl⟩⟩
    rw [hs]
    exact bind_eq_ok.2 ⟨_, hl, rfl⟩

/-! ## Sources -/

def trimmed (front back : Bool) (text : List Char) : List Char :=
  let text := if front then trimStart text else text
  if back then trimEnd text else text

def textNodes : List Char → List Node
  | [] => []
  | text => [.text (String.ofList text)]

/-- The nodes of a source behind a delimiter that may trim it. -/
inductive SourceRead : (trims : Bool) → List Char → List Node → Prop where
  | text {trims s} : cut? "\x7b\x7b".toList s = none →
      SourceRead trims s (textNodes (trimmed trims false s))
  | mark {trims s before inner nodes closing rest} :
      cut? "\x7b\x7b".toList s = some (before, inner) → InnerRead inner nodes closing →
      SourceRead closing.trims closing.rest rest →
      SourceRead trims s (textNodes (trimmed trims (trimsBefore inner) before) ++ nodes ++ rest)

theorem action_notMem_textNodes {pipeline : Pipeline} (text : List Char) :
    .action pipeline ∉ textNodes text := by
  cases text with
  | nil => exact List.not_mem_nil
  | cons c text => simp [textNodes]

/-- Every action of a source is read from the tokens up to a closing delimiter. -/
theorem SourceRead.exists_read {trims : Bool} {s : List Char} {nodes : List Node} {pipeline : Pipeline}
    (h : SourceRead trims s nodes) (hm : .action pipeline ∈ nodes) :
    ∃ body tokens closing, Tokenized false body tokens (some closing) ∧ TokensRead tokens pipeline := by
  induction h with
  | text => exact absurd hm (action_notMem_textNodes _)
  | mark _ hi _ ih =>
    rw [List.mem_append, List.mem_append] at hm
    rcases hm with (hm | hm) | hm
    · exact absurd hm (action_notMem_textNodes _)
    · cases hi with
      | comment => exact absurd hm List.not_mem_nil
      | action _ ht hr =>
        cases List.mem_singleton.1 hm
        exact ⟨_, _, _, ht, hr⟩
    · exact ih hm

theorem nodesOfSegments_append {a b : List Segment} {nodes : List Node} :
    nodesOfSegments (a ++ b) = .ok nodes ↔
      ∃ as bs, nodesOfSegments a = .ok as ∧ nodesOfSegments b = .ok bs ∧ nodes = as ++ bs := by
  induction a generalizing nodes with
  | nil =>
    constructor
    · intro h
      exact ⟨[], nodes, rfl, h, rfl⟩
    · rintro ⟨as, bs, ha, hb, rfl⟩
      cases ha
      exact hb
  | cons segment a ih =>
    cases segment with
    | text value =>
      simp only [List.cons_append, nodesOfSegments, bind_eq_ok, ih]
      constructor
      · rintro ⟨_, ⟨as, bs, ha, hb, rfl⟩, h⟩
        cases h
        exact ⟨_, bs, ⟨as, ha, rfl⟩, hb, rfl⟩
      · rintro ⟨_, bs, ⟨as, ha, h⟩, hb, rfl⟩
        cases h
        exact ⟨_, ⟨as, bs, ha, hb, rfl⟩, rfl⟩
    | action tokens pos =>
      simp only [List.cons_append, nodesOfSegments, bind_eq_ok, ih]
      constructor
      · rintro ⟨pipeline, hp, _, ⟨as, bs, ha, hb, rfl⟩, h⟩
        cases h
        exact ⟨_, bs, ⟨pipeline, hp, as, ha, rfl⟩, hb, rfl⟩
      · rintro ⟨_, bs, ⟨pipeline, hp, as, ha, h⟩, hb, rfl⟩
        cases h
        exact ⟨pipeline, hp, _, ⟨as, bs, ha, hb, rfl⟩, rfl⟩

theorem nodesOfSegments_text (text : List Char) :
    nodesOfSegments (textSegment text) = .ok (textNodes text) := by
  cases text <;> rfl

theorem length_rest_lt {total pos : Nat} {s before inner : List Char} {inside : List Segment}
    {closing : Closing} (hc : cut? "\x7b\x7b".toList s = some (before, inner))
    (hi : readInner total pos inner = .ok (inside, closing)) : closing.rest.length < s.length := by
  have := (readInner_suffix hi).length_le
  have hs := congrArg List.length (eq_of_cut? hc)
  simp only [List.length_append] at hs
  have : "\x7b\x7b".toList.length = 2 := rfl
  omega

/-- What holds of all texts, and of what is read behind each opening delimiter, holds of all segments. -/
theorem split_rule {good : Segment → Prop} {bad : TemplateError → Prop} {total : Nat} {s : List Char}
    (text : ∀ value, good (.text value))
    (action : ∀ inner, "\x7b\x7b".toList ++ inner <:+ s →
      Ensures (fun r => ∀ segment ∈ r.1, good segment) bad
        (readInner total (total - byteLength inner - 2) inner)) (trims : Bool) :
    Ensures (fun cut => ∀ segment ∈ cut, good segment) bad (split total trims s) := by
  have texts (value : List Char) : ∀ segment ∈ textSegment value, good segment := by
    cases value with
    | nil => exact List.forall_mem_nil _
    | cons c value => exact List.forall_mem_singleton.2 (text _)
  induction hn : s.length using Nat.strongRecOn generalizing s trims with
  | ind n ih =>
    rw [split_eq]
    simp only
    cases hc : cut? "\x7b\x7b".toList s with
    | none => exact texts _
    | some r =>
      obtain ⟨before, inner⟩ := r
      have opens : "\x7b\x7b".toList ++ inner <:+ s :=
        ⟨before, by rw [eq_of_cut? hc, List.append_assoc]⟩
      have inside := action inner opens
      refine (ensures_of_error fun e => inside.error).bind fun (found, closing) hi => ?_
      have rest : closing.rest <:+ s :=
        ((readInner_suffix hi).trans (List.suffix_append _ inner)).trans opens
      have behind := ih _ (hn ▸ length_rest_lt hc hi)
        (fun inner hs => action inner (hs.trans rest)) closing.trims rfl
      refine behind.bind fun cut hb => ?_
      rw [Ensures, List.forall_mem_append, List.forall_mem_append]
      exact ⟨⟨texts _, inside.ok hi⟩, hb⟩

theorem sourceRead_of_split {total : Nat} {trims : Bool} {s : List Char} {segments : List Segment}
    {nodes : List Node} (h : split total trims s = .ok segments)
    (hn : nodesOfSegments segments = .ok nodes) : SourceRead trims s nodes := by
  induction hl : s.length using Nat.strongRecOn generalizing s trims segments nodes with
  | ind n ih =>
    rw [split_eq] at h
    simp only at h
    cases hc : cut? "\x7b\x7b".toList s with
    | none =>
      simp only [hc, Except.ok.injEq] at h
      subst h
      rw [nodesOfSegments_text] at hn
      cases hn
      exact .text hc
    | some r =>
      obtain ⟨before, inner⟩ := r
      simp only [hc] at h
      obtain ⟨⟨inside, closing⟩, hi, h⟩ := bind_eq_ok.1 h
      obtain ⟨behind, hb, h⟩ := bind_eq_ok.1 h
      cases h
      obtain ⟨as, rest, ha, hr, rfl⟩ := nodesOfSegments_append.1 hn
      obtain ⟨_, inside', ht, hi', rfl⟩ := nodesOfSegments_append.1 ha
      rw [nodesOfSegments_text] at ht
      cases ht
      have lt : closing.rest.length < n := hl ▸ length_rest_lt hc hi
      exact .mark hc (innerRead_of_readInner hi hi') (ih _ lt hb hr rfl)

theorem split_of_sourceRead {trims : Bool} {s : List Char} {nodes : List Node}
    (h : SourceRead trims s nodes) (total : Nat) :
    ∃ segments, split total trims s = .ok segments ∧ nodesOfSegments segments = .ok nodes := by
  induction h with
  | text hc =>
    refine ⟨_, ?_, nodesOfSegments_text _⟩
    rw [split_eq]
    simp only [hc]
    rfl
  | @mark trims s before inner nodes closing rest hc hi _ ih =>
    obtain ⟨inside, hi', hn⟩ := readInner_of_innerRead hi total (total - byteLength inner - 2)
    obtain ⟨behind, hb, hr⟩ := ih
    refine ⟨_, ?_, nodesOfSegments_append.2
      ⟨_, _, nodesOfSegments_append.2 ⟨_, _, nodesOfSegments_text _, hn, rfl⟩, hr, rfl⟩⟩
    rw [split_eq]
    simp only [hc]
    exact bind_eq_ok.2 ⟨_, hi', bind_eq_ok.2 ⟨_, hb, rfl⟩⟩

theorem parse_iff {source : String} {t : Template} :
    Template.parse source = .ok t ↔ SourceRead false source.toList t.nodes := by
  constructor
  · intro h
    obtain ⟨segments, hs, h⟩ := bind_eq_ok.1 h
    obtain ⟨nodes, hn, h⟩ := bind_eq_ok.1 h
    cases h
    exact sourceRead_of_split hs hn
  · intro h
    obtain ⟨segments, hs, hn⟩ := split_of_sourceRead h (byteLength source.toList)
    exact bind_eq_ok.2 ⟨segments, hs, bind_eq_ok.2 ⟨t.nodes, hn, rfl⟩⟩

end Rollout.Template
