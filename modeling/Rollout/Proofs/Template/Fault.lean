import Rollout.Proofs.Template.Splicing

/-!
# Where reading fails

A source that cannot be read is reported with the byte at which its fault is. This is the first byte of a
character of the source, and what stands from there on is what the report is about (`parse_error_at`).
-/

namespace Rollout

def TemplateError.pos? : TemplateError → Option Nat
  | .unclosedAction pos | .unclosedComment pos | .unterminatedString pos | .unexpected _ pos
  | .emptyCommand pos => some pos
  | _ => none

namespace Template

open Text

/-! ## Causes -/

/-- What a source reads from byte `pos` on, at which an error is reported. -/
inductive Cause (source : List Char) (pos : Nat) : List Char → TemplateError → Prop where
  | unclosedAction {rest} : Cause source pos ("\x7b\x7b".toList ++ rest) (.unclosedAction pos)
  | unclosedComment {rest} : Cause source pos ("\x7b\x7b".toList ++ rest) (.unclosedComment pos)
  | unterminatedString {quote rest} : quote = '"' ∨ quote = '\x60' →
      Cause source pos (quote :: rest) (.unterminatedString pos)
  | text {text rest} : text ≠ [] →
      Cause source pos (text ++ rest) (.unexpected (.source (String.ofList text)) pos)
  /-- No other token is ever reported. -/
  | closeGroup {rest} : Cause source pos (')' :: rest) (.unexpected (.token .closeGroup) pos)
  | endOfAction {rest} : Cause source pos ('(' :: rest) (.unexpected .endOfAction pos)
  /-- A token of the action that has an empty command. -/
  | emptyCommand {cut tokens start token glued behind rest} : segments source = .ok cut →
      .action tokens start ∈ cut → readPipeline start tokens = .error (.emptyCommand pos) →
      ⟨token, pos⟩ ∈ tokens → scanToken pos glued behind = .ok (token, rest) →
      Cause source pos behind (.emptyCommand pos)
  | emptyAction {cut rest} : segments source = .ok cut → .action [] pos ∈ cut →
      Cause source pos ("\x7b\x7b".toList ++ rest) (.emptyCommand pos)

section

variable {source s s' : List Char} {pos : Nat} {e : TemplateError}

theorem Cause.pos?_eq (h : Cause source pos s e) : e.pos? = some pos := by
  cases h <;> rfl

/-- Whether an error is reported at the place of its cause, which is inside a part of the source. -/
def CausedIn (source s : List Char) (e : TemplateError) : Prop :=
  ∃ t, t <:+ s ∧ t ≠ [] ∧ Cause source (byteLength source - byteLength t) t e

theorem CausedIn.mono (h : CausedIn source s e) (hs : s <:+ s') : CausedIn source s' e := by
  obtain ⟨t, ht, cause⟩ := h
  exact ⟨t, ht.trans hs, cause⟩

/-- Whether a token is read where it is said to stand, inside a part of the source. -/
def Located.StandsIn (source s : List Char) (l : Located) : Prop :=
  ∃ t glued rest, t <:+ s ∧ l.pos = byteLength source - byteLength t ∧
    scanToken l.pos glued t = .ok (l.token, rest)

theorem Located.StandsIn.mono {l : Located} (h : l.StandsIn source s) (hs : s <:+ s') :
    l.StandsIn source s' := by
  obtain ⟨t, glued, rest, ht, read⟩ := h
  exact ⟨t, glued, rest, ht.trans hs, read⟩

/-! ## Tokens -/

theorem cause_of_scanInt {negative : Bool} (h : scanInt pos negative s = .error e)
    (hn : negative = true ∨ s.takeWhile Char.isDigit ≠ []) :
    Cause source pos ((if negative then ['-'] else []) ++ s) e := by
  unfold scanInt at h
  simp only at h
  split at h
  · rename_i none
    obtain rfl := hn.resolve_right fun digits => digits (List.isEmpty_iff.1 none)
    cases h
    show Cause source pos (['-'] ++ s) (.unexpected (.source (String.ofList ['-'])) pos)
    exact .text (List.cons_ne_nil _ _)
  · rename_i some
    split at h
    · cases h
    · cases h
      have digits : s.takeWhile Char.isDigit ++ s.dropWhile Char.isDigit = s :=
        List.takeWhile_append_dropWhile
      nth_rewrite 1 [← digits]
      rw [← List.append_assoc]
      refine .text (List.append_ne_nil_of_right_ne_nil _ fun none => some ?_)
      rw [none]
      rfl

theorem cause_of_scanToken {glued : Bool} {c : Char} {cs : List Char}
    (h : scanToken pos glued (c :: cs) = .error e) : Cause source pos (c :: cs) e := by
  unfold scanToken at h
  split at h <;> rename_i hc
  · cases hc
  all_goals cases hc
  · cases h
  · cases h
  · cases h
  · split at h <;> cases h
    exact .unterminatedString (.inl rfl)
  · split at h <;> cases h
    exact .unterminatedString (.inr rfl)
  · exact cause_of_scanInt h (.inl rfl)
  · split at h <;> cases h
  · split at h
    · rename_i digit
      have cause : Cause source pos _ e := cause_of_scanInt h (.inr (by simp [digit]))
      exact cause
    · split at h <;> cases h
      show Cause source pos ([c] ++ cs) (.unexpected (.source (String.ofList [c])) pos)
      exact .text (List.cons_ne_nil _ _)

theorem scanToken_bracket {glued : Bool} {token : Token} {rest : List Char}
    (h : scanToken pos glued s = .ok (token, rest)) :
    (token = .openGroup → s = '(' :: rest) ∧ (token = .closeGroup → s = ')' :: rest) := by
  unfold scanToken at h
  split at h
  · cases h
  · cases h
    exact ⟨fun _ => rfl, nofun⟩
  · cases h
    exact ⟨nofun, fun _ => rfl⟩
  · cases h
    exact ⟨nofun, nofun⟩
  · split at h <;> cases h
    exact ⟨nofun, nofun⟩
  · split at h <;> cases h
    exact ⟨nofun, nofun⟩
  · obtain ⟨value, rfl⟩ := scanInt_token h
    exact ⟨nofun, nofun⟩
  · split at h <;> cases h
    · exact ⟨nofun, nofun⟩
    · constructor <;> split <;> nofun
  · split at h
    · obtain ⟨value, rfl⟩ := scanInt_token h
      exact ⟨nofun, nofun⟩
    · split at h <;> cases h
      obtain ⟨b, hw⟩ | hw | hw := wordToken_cases (String.ofList _) <;> rw [hw] <;>
        exact ⟨nofun, nofun⟩

/-- Every token is read where it is said to stand, and what is no token is reported where it starts. -/
theorem tokenize_ensures (source : List Char) (glued : Bool) (s : List Char) :
    Ensures (fun r => ∀ l ∈ r.1, l.StandsIn source s) (CausedIn source s)
      (tokenize (byteLength source) glued s) := by
  induction hn : s.length using Nat.strongRecOn generalizing s glued with
  | ind n ih =>
    cases s with
    | nil => exact List.forall_mem_nil _
    | cons c cs =>
      have behind {rest : List Char} (hr : rest <:+ cs) (glued : Bool) :
          Ensures (fun r => ∀ l ∈ r.1, l.StandsIn source (c :: cs)) (CausedIn source (c :: cs))
            (tokenize (byteLength source) glued rest) := by
        have hs : rest <:+ c :: cs := hr.trans (List.suffix_cons c cs)
        have lt : rest.length < n := by
          have := hr.length_le
          simp only [← hn, List.length_cons]
          omega
        exact (ih _ lt glued rest rfl).mono (fun _ h l hl => (h l hl).mono hs) fun _ h => h.mono hs
      rw [tokenize_cons]
      split
      · split
        · exact List.forall_mem_nil _
        · exact behind List.suffix_rfl false
      · split
        · exact List.forall_mem_nil _
        · have scanned : Ensures _ (CausedIn source (c :: cs))
              (scanToken (byteLength source - byteLength (c :: cs)) glued (c :: cs)) :=
            ensures_of_error fun e he =>
              ⟨c :: cs, List.suffix_rfl, List.cons_ne_nil c cs, cause_of_scanToken he⟩
          refine scanned.bind fun (token, rest) ht => ?_
          refine (behind (scanToken_suffix ht) (token = .closeGroup)).bind fun r hr => ?_
          exact List.forall_mem_cons.2 ⟨⟨c :: cs, glued, rest, List.suffix_rfl, rfl, ht⟩, hr⟩

/-! ## Segments -/

def Segment.StandsIn (source s : List Char) : Segment → Prop
  | .text _ => True
  | .action tokens pos =>
    (∃ inner, "\x7b\x7b".toList ++ inner <:+ s ∧
      pos = byteLength source - byteLength ("\x7b\x7b".toList ++ inner)) ∧
    ∀ l ∈ tokens, l.StandsIn source s

theorem innerBody_suffix (inner : List Char) : innerBody inner <:+ inner := by
  unfold innerBody
  split
  · exact List.drop_suffix 1 inner
  · exact List.suffix_rfl

theorem readInner_ensures {inner : List Char} (hs : "\x7b\x7b".toList ++ inner <:+ s) :
    Ensures (fun r => ∀ segment ∈ r.1, segment.StandsIn source s) (CausedIn source s)
      (readInner (byteLength source) (byteLength source - byteLength inner - 2) inner) := by
  have opening : byteLength source - byteLength inner - 2 =
      byteLength source - byteLength ("\x7b\x7b".toList ++ inner) := by
    have two : byteLength "\x7b\x7b".toList = 2 := rfl
    rw [byteLength_append, two]
    omega
  have body : innerBody inner <:+ s :=
    ((innerBody_suffix inner).trans (List.suffix_append _ inner)).trans hs
  rw [opening]
  unfold readInner
  simp only
  rw [← innerBody]
  split
  · split
    · exact List.forall_mem_nil _
    · exact ⟨_, hs, List.cons_ne_nil _ _, .unclosedComment⟩
  · have tokens := (tokenize_ensures source false (innerBody inner)).mono
      (fun _ h l hl => (h l hl).mono body) fun _ h => h.mono body
    refine tokens.bind fun r hr => ?_
    obtain ⟨located, closing⟩ := r
    cases closing with
    | some closing => exact List.forall_mem_singleton.2 ⟨⟨inner, hs, rfl⟩, hr⟩
    | none => exact ⟨_, hs, List.cons_ne_nil _ _, .unclosedAction⟩

theorem split_ensures (source : List Char) (trims : Bool) (s : List Char) :
    Ensures (fun cut => ∀ segment ∈ cut, segment.StandsIn source s) (CausedIn source s)
      (split (byteLength source) trims s) :=
  split_rule (fun _ => trivial) (fun _ => readInner_ensures) trims

/-! ## Pipelines -/

/-- What can be wrong with a row of tokens, of which `last` is the place of the last one. -/
inductive RowFault (last : Nat) (tokens : List Located) : TemplateError → Prop where
  | emptyAtEnd : RowFault last tokens (.emptyCommand last)
  | emptyCommand {token : Token} {pos : Nat} : ⟨token, pos⟩ ∈ tokens →
      RowFault last tokens (.emptyCommand pos)
  | unknownFunction {name : String} {pos : Nat} : ⟨.ident name, pos⟩ ∈ tokens →
      Builtin.ofName? name = none → RowFault last tokens (.unknownFunction name)
  | closeGroup {pos : Nat} : ⟨.closeGroup, pos⟩ ∈ tokens →
      RowFault last tokens (.unexpected (.token .closeGroup) pos)
  | endOfAction {pos : Nat} : ⟨.openGroup, pos⟩ ∈ tokens →
      RowFault last tokens (.unexpected .endOfAction pos)

/-- A chain stands right behind a closing parenthesis, so that there is an operand to glue it to: it is
never what is wrong with a row. -/
theorem readFrom_ensures {last : Nat} {all : List Located} {draft : Draft} {groups : List (Draft × Nat)}
    {tokens : List Located} (glued : GluedToGroups (tokens.map (·.token)))
    (first : ∀ path, (tokens.map (·.token)).head? = some (.chain path) → draft.term.isSome = true)
    (ht : ∀ l ∈ tokens, l ∈ all) (hg : ∀ g ∈ groups, ⟨.openGroup, g.2⟩ ∈ all) :
    Ensures (fun _ => True) (RowFault last all) (readFrom last draft groups tokens) := by
  induction tokens generalizing draft groups with
  | nil =>
    unfold readFrom
    split
    · exact .emptyAtEnd
    · trivial
    · exact .endOfAction (hg _ List.mem_cons_self)
  | cons l rest ih =>
    obtain ⟨token, pos⟩ := l
    rw [List.forall_mem_cons] at ht
    rw [List.map_cons, GluedToGroups, List.isChain_cons] at glued
    -- Behind a draft that may be without a last operand, there is no chain unless a group was closed.
    have other (hn : token ≠ .closeGroup) (draft : Draft) (path : List String)
        (hp : (rest.map (·.token)).head? = some (.chain path)) : draft.term.isSome = true :=
      absurd (glued.1 _ hp path rfl) hn
    cases token with
    | dot | field | int | text | truth | nothing => exact ih glued.2 (fun _ _ => rfl) ht.2 hg
    | ident name =>
      simp only [readFrom]
      split
      · exact ih glued.2 (fun _ _ => rfl) ht.2 hg
      · rename_i unknown
        exact .unknownFunction ht.1 unknown
    | chain path =>
      obtain ⟨term, some⟩ := Option.isSome_iff_exists.1 (first path rfl)
      simp only [readFrom, Draft.glue?, some, Option.map_some]
      exact ih glued.2 (other (by simp) _) ht.2 hg
    | openGroup =>
      exact ih glued.2 (other (by simp) _) ht.2 (List.forall_mem_cons.2 ⟨ht.1, hg⟩)
    | closeGroup =>
      simp only [readFrom]
      split
      · exact .emptyCommand ht.1
      · exact .closeGroup ht.1
      · exact ih glued.2 (fun _ _ => rfl) ht.2 (List.forall_mem_cons.1 hg).2
    | pipe =>
      simp only [readFrom]
      split
      · exact .emptyCommand ht.1
      · exact ih glued.2 (other (by simp) _) ht.2 hg

theorem readPipeline_ensures {start : Nat} {tokens : List Located} {closing : Option Closing}
    (h : Tokenized false s (tokens.map (·.token)) closing) :
    Ensures (fun _ => True) (RowFault ((tokens.getLast?.map (·.pos)).getD start) tokens)
      (readPipeline start tokens) := by
  obtain ⟨glued, first⟩ := h.gluedToGroups
  exact readFrom_ensures glued (fun path hp => absurd (first path hp) Bool.false_ne_true)
    (fun _ hl => hl) (List.forall_mem_nil _)

theorem nodesOfSegments_ensures (cut : List Segment) :
    Ensures (fun _ => True)
      (fun e => ∃ tokens start, .action tokens start ∈ cut ∧ readPipeline start tokens = .error e)
      (nodesOfSegments cut) := by
  induction cut with
  | nil => trivial
  | cons segment rest ih =>
    let Failing (e : TemplateError) : Prop :=
      ∃ tokens start, .action tokens start ∈ segment :: rest ∧ readPipeline start tokens = .error e
    have behind : Ensures (fun _ => True) Failing (nodesOfSegments rest) := by
      refine ih.mono (fun _ h => h) ?_
      rintro e ⟨tokens, start, hm, hr⟩
      exact ⟨tokens, start, List.mem_cons_of_mem _ hm, hr⟩
    cases segment with
    | text value => exact behind.bind fun _ _ => trivial
    | action tokens start =>
      have read : Ensures _ Failing (readPipeline start tokens) :=
        ensures_of_error fun e he => ⟨tokens, start, List.mem_cons_self, he⟩
      exact read.bind fun _ _ => behind.bind fun _ _ => trivial

theorem Located.StandsIn.causedIn {l : Located} (h : l.StandsIn source s) {cut : List Segment}
    {tokens : List Located} {start : Nat} (hs : segments source = .ok cut)
    (hm : .action tokens start ∈ cut) (hr : readPipeline start tokens = .error (.emptyCommand l.pos))
    (hl : l ∈ tokens) : CausedIn source s (.emptyCommand l.pos) := by
  obtain ⟨t, glued, rest, ht, hp, read⟩ := h
  have ne_nil : t ≠ [] := by
    rintro rfl
    cases read
  refine ⟨t, ht, ne_nil, ?_⟩
  rw [← hp]
  exact .emptyCommand hs hm hr hl read

theorem causedIn_of_readPipeline {cut : List Segment} {tokens : List Located} {start : Nat}
    (hs : segments source = .ok cut) (hm : .action tokens start ∈ cut)
    (hr : readPipeline start tokens = .error e) (hp : e.pos? = some pos) : CausedIn source source e := by
  have cuts := split_ensures source false source
  rw [← segments, hs] at cuts
  obtain ⟨⟨inner, hi, rfl⟩, stands⟩ := cuts _ hm
  obtain ⟨text, closing, ht⟩ := lexed_of_split hs _ hm
  have fault := (readPipeline_ensures ht).error hr
  cases fault with
  | emptyAtEnd =>
    cases hl : tokens.getLast? with
    | some l =>
      rw [hl] at hr
      have hl := List.mem_of_getLast? hl
      exact (stands l hl).causedIn hs hm hr hl
    | none =>
      rw [List.getLast?_eq_none_iff] at hl
      subst hl
      exact ⟨_, hi, List.cons_ne_nil _ _, .emptyAction hs hm⟩
  | emptyCommand hl => exact (stands _ hl).causedIn hs hm hr hl
  | unknownFunction => cases hp
  | closeGroup hl =>
    obtain ⟨t, glued, rest, hts, rfl, read⟩ := stands _ hl
    obtain rfl := (scanToken_bracket read).2 rfl
    exact ⟨_, hts, List.cons_ne_nil _ _, .closeGroup⟩
  | endOfAction hl =>
    obtain ⟨t, glued, rest, hts, rfl, read⟩ := stands _ hl
    obtain rfl := (scanToken_bracket read).1 rfl
    exact ⟨_, hts, List.cons_ne_nil _ _, .endOfAction⟩

end

/-! ## Sources -/

/-- What is wrong with a source, in its characters or in the tokens of an action. -/
theorem parse_error_cases {source : String} {e : TemplateError} (h : Template.parse source = .error e) :
    CausedIn source.toList source.toList e ∨
      ∃ cut tokens start, segments source.toList = .ok cut ∧ .action tokens start ∈ cut ∧
        readPipeline start tokens = .error e := by
  obtain hs | ⟨cut, hs, h⟩ := bind_eq_error.1 h
  · exact .inl ((split_ensures source.toList false source.toList).error hs)
  · obtain hn | ⟨_, _, h⟩ := bind_eq_error.1 h
    · obtain ⟨tokens, start, hm, hr⟩ := (nodesOfSegments_ensures cut).error hn
      exact .inr ⟨cut, tokens, start, hs, hm, hr⟩
    · cases h

/-- An error with a position points into the source, before a character, at its cause. -/
theorem parse_error_at {source : String} {e : TemplateError} {pos : Nat}
    (h : Template.parse source = .error e) (hp : e.pos? = some pos) :
    ∃ before behind, source.toList = before ++ behind ∧ byteLength before = pos ∧ behind ≠ [] ∧
      Cause source.toList pos behind e := by
  have caused : CausedIn source.toList source.toList e := by
    obtain caused | ⟨cut, tokens, start, hs, hm, hr⟩ := parse_error_cases h
    · exact caused
    · exact causedIn_of_readPipeline hs hm hr hp
  obtain ⟨behind, ⟨before, whole⟩, inside, cause⟩ := caused
  obtain rfl : _ = pos := Option.some.inj (cause.pos?_eq.symm.trans hp)
  refine ⟨before, behind, whole.symm, ?_, inside, cause⟩
  rw [← whole, byteLength_append, Nat.add_sub_cancel]

/-- A pipe with nothing behind it, in an action behind characters of two bytes and a comment. -/
theorem parse_error_at_pipe :
    let source := "ß\x7b\x7b/* ü */\x7d\x7d\x7b\x7b .Name | \x7d\x7d"
    Template.parse source = .error (.emptyCommand 23) ∧
      ∃ before behind, source.toList = before ++ behind ∧ byteLength before = 23 ∧ behind ≠ [] ∧
        Cause source.toList 23 behind (.emptyCommand 23) := by
  have failed : Template.parse "ß\x7b\x7b/* ü */\x7d\x7d\x7b\x7b .Name | \x7d\x7d" =
      .error (.emptyCommand 23) := by
    rfl
  exact ⟨failed, parse_error_at failed rfl⟩

end Template

end Rollout
