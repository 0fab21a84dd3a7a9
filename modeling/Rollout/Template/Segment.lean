import Rollout.Template.Scan

/-!
# Segments

A template's source is a row of literal texts and of actions between `{{` and `}}`. A minus sign and
a blank at the inner side of a delimiter take the blanks of the text beyond it away. Comments vanish.
The whole source is cut before any action is read as a pipeline.

Both scans go through the text character by character and skip what a token, an action or a comment
has taken; `tokenize_cons` and `split_eq` say the same without the skipping.
-/

namespace Rollout.Template

open Text

/-! ## Tokens up to a delimiter -/

/-- The end of an action or comment: the text behind it, and whether that loses its leading
blanks. -/
structure Closing where
  rest : List Char
  trims : Bool

def tokenizeFrom (total : Nat) : (skip : Nat) → (glued : Bool) → List Char →
    Except TemplateError (List Located × Option Closing)
  | _, _, [] => .ok ([], none)
  | skip + 1, glued, _ :: cs => tokenizeFrom total skip glued cs
  | 0, glued, c :: cs =>
    if isBlank c then
      match strip? "-\x7d\x7d".toList (trimStart cs) with
      | some rest => .ok ([], some ⟨rest, true⟩)
      | none => tokenizeFrom total 0 false cs
    else
      match strip? "\x7d\x7d".toList (c :: cs) with
      | some rest => .ok ([], some ⟨rest, false⟩)
      | none => do
        let pos := total - byteLength (c :: cs)
        let (token, rest) ← scanToken pos glued (c :: cs)
        let (tokens, closing) ←
          tokenizeFrom total (cs.length - rest.length) (token = .closeGroup) cs
        .ok (⟨token, pos⟩ :: tokens, closing)

/-- The tokens of a text up to its closing delimiter, or all of them if there is none. Positions
count from the start of a source of `total` bytes. -/
def tokenize (total : Nat) (glued : Bool) (s : List Char) :
    Except TemplateError (List Located × Option Closing) :=
  tokenizeFrom total 0 glued s

def tokensOfExpression (source : List Char) : Except TemplateError (List Located) := do
  let total := byteLength source
  match ← tokenize total false source with
  | (tokens, none) => .ok tokens
  | (_, some ⟨rest, false⟩) =>
    .error (.unexpected (.source "\x7d\x7d") (total - byteLength rest - 2))
  | (_, some ⟨rest, true⟩) => .error (.unexpected (.source "-") (total - byteLength rest - 3))

/-! ## Comments -/

/-- The end of a comment whose text starts behind its opening mark. -/
def closeComment? (s : List Char) : Option Closing :=
  match cut? "*/".toList s with
  | none => none
  | some (_, rest) =>
    let behind := trimStart rest
    match strip? "-\x7d\x7d".toList behind with
    | some next => if behind.length < rest.length then some ⟨next, true⟩ else none
    | none => (strip? "\x7d\x7d".toList behind).map (⟨·, false⟩)

/-! ## Segments -/

inductive Segment where
  | text (value : String)
  | action (tokens : List Located) (pos : Nat)
deriving DecidableEq, Repr

def textSegment : List Char → List Segment
  | [] => []
  | s => [.text (String.ofList s)]

/-- Whether a text behind an opening delimiter starts with the mark that trims what is before it. -/
def trimsBefore : List Char → Bool
  | '-' :: c :: _ => isBlank c
  | _ => false

/-- What an opening delimiter opens: nothing for a comment, or an action; and where that ends. The
delimiter is byte `pos` of the source. -/
def readInner (total pos : Nat) (inner : List Char) :
    Except TemplateError (List Segment × Closing) :=
  let body := if trimsBefore inner then inner.drop 1 else inner
  match strip? "/*".toList (trimStart body) with
  | some comment =>
    match closeComment? comment with
    | some closing => .ok ([], closing)
    | none => .error (.unclosedComment pos)
  | none => do
    match ← tokenize total false body with
    | (tokens, some closing) => .ok ([.action tokens pos], closing)
    | (_, none) => .error (.unclosedAction pos)

/-- The segments of a text behind the first `skip` characters. `trims` says whether what closed
before them takes their leading blanks. -/
def splitFrom (total : Nat) : (skip : Nat) → (trims : Bool) → List Char →
    Except TemplateError (List Segment)
  | _, _, [] => .ok []
  | skip + 1, trims, _ :: cs => splitFrom total skip trims cs
  | 0, trims, c :: cs =>
    let lead (text : List Char) := if trims then trimStart text else text
    match cut? "\x7b\x7b".toList (c :: cs) with
    | none => .ok (textSegment (lead (c :: cs)))
    | some (before, inner) => do
      let text := lead before
      let text := if trimsBefore inner then trimEnd text else text
      let (segments, closing) ← readInner total (total - byteLength inner - 2) inner
      let rest ← splitFrom total (cs.length - closing.rest.length) closing.trims cs
      .ok (textSegment text ++ segments ++ rest)

def split (total : Nat) (trims : Bool) (s : List Char) : Except TemplateError (List Segment) :=
  splitFrom total 0 trims s

def segments (source : List Char) : Except TemplateError (List Segment) :=
  split (byteLength source) false source

/-! ## What is left -/

theorem drop_length_sub {α : Type} {s t : List α} (h : t <:+ s) :
    s.drop (s.length - t.length) = t := by
  obtain ⟨r, rfl⟩ := h
  simp

theorem trimStart_suffix (s : List Char) : trimStart s <:+ s :=
  List.dropWhile_suffix isBlank

theorem tokenizeFrom_eq (total skip : Nat) (glued : Bool) (s : List Char) :
    tokenizeFrom total skip glued s = tokenize total glued (s.drop skip) := by
  induction s generalizing skip with
  | nil => cases skip <;> rfl
  | cons c cs ih =>
    cases skip with
    | zero => rfl
    | succ n => simpa [tokenizeFrom] using ih n

theorem tokenize_cons (total : Nat) (glued : Bool) (c : Char) (cs : List Char) :
    tokenize total glued (c :: cs) =
      (if isBlank c then
        match strip? "-\x7d\x7d".toList (trimStart cs) with
        | some rest => .ok ([], some ⟨rest, true⟩)
        | none => tokenize total false cs
      else
        match strip? "\x7d\x7d".toList (c :: cs) with
        | some rest => .ok ([], some ⟨rest, false⟩)
        | none => do
          let pos := total - byteLength (c :: cs)
          let (token, rest) ← scanToken pos glued (c :: cs)
          let (tokens, closing) ← tokenize total (token = .closeGroup) rest
          .ok (⟨token, pos⟩ :: tokens, closing)) := by
  rw [tokenize, tokenizeFrom]
  split
  · rfl
  · split
    · rfl
    · cases h : scanToken (total - byteLength (c :: cs)) glued (c :: cs) with
      | error e => simp only [h, bind, Except.bind]
      | ok r =>
        obtain ⟨token, rest⟩ := r
        simp only [h, bind, Except.bind, tokenizeFrom_eq, drop_length_sub (scanToken_suffix h)]

theorem tokenize_suffix {total : Nat} {glued : Bool} {s : List Char} {tokens : List Located}
    {closing : Closing} (h : tokenize total glued s = .ok (tokens, some closing)) :
    closing.rest <:+ s := by
  induction hn : s.length using Nat.strongRecOn generalizing s glued tokens with
  | ind n ih =>
    cases s with
    | nil => cases h
    | cons c cs =>
      rw [tokenize_cons] at h
      split at h
      · split at h
        · rename_i hs
          cases h
          exact ((strip?_suffix hs).trans (trimStart_suffix cs)).trans (List.suffix_cons c cs)
        · exact (ih cs.length (by simp [← hn]) h rfl).trans (List.suffix_cons c cs)
      · split at h
        · rename_i hs
          cases h
          exact strip?_suffix hs
        · cases ht : scanToken (total - byteLength (c :: cs)) glued (c :: cs) with
          | error e => simp [ht, bind, Except.bind] at h
          | ok r =>
            obtain ⟨token, rest⟩ := r
            have hr := scanToken_suffix ht
            cases hk : tokenize total (token = .closeGroup) rest with
            | error e => simp [ht, hk, bind, Except.bind] at h
            | ok k =>
              obtain ⟨tokens', closing'⟩ := k
              simp only [ht, hk, bind, Except.bind, Except.ok.injEq, Prod.mk.injEq] at h
              obtain ⟨-, rfl⟩ := h
              have lt : rest.length < n := by
                have := hr.length_le
                simp only [← hn, List.length_cons]
                omega
              exact ((ih rest.length lt hk rfl).trans hr).trans (List.suffix_cons c cs)

theorem closeComment?_suffix {s : List Char} {closing : Closing}
    (h : closeComment? s = some closing) : closing.rest <:+ s := by
  unfold closeComment? at h
  split at h
  · cases h
  · rename_i rest hc
    have hr := (trimStart_suffix rest).trans (cut?_suffix hc)
    simp only at h
    split at h
    · rename_i next hn
      split at h <;> cases h
      exact (strip?_suffix hn).trans hr
    · obtain ⟨next, hn, rfl⟩ := Option.map_eq_some_iff.1 h
      exact (strip?_suffix hn).trans hr

theorem readInner_suffix {total pos : Nat} {inner : List Char} {segments : List Segment}
    {closing : Closing} (h : readInner total pos inner = .ok (segments, closing)) :
    closing.rest <:+ inner := by
  unfold readInner at h
  simp only at h
  have hb : (if trimsBefore inner then inner.drop 1 else inner) <:+ inner := by
    split
    · exact List.drop_suffix 1 inner
    · exact List.suffix_rfl
  split at h
  · rename_i comment ho
    split at h
    · rename_i hc
      cases h
      exact (((closeComment?_suffix hc).trans (strip?_suffix ho)).trans (trimStart_suffix _)).trans hb
    · cases h
  · generalize (if trimsBefore inner then inner.drop 1 else inner) = body at h hb
    match ht : tokenize total false body with
    | .error e => simp [ht, bind, Except.bind] at h
    | .ok (_, none) => simp [ht, bind, Except.bind] at h
    | .ok (tokens, some closing') =>
      simp only [ht, bind, Except.bind, Except.ok.injEq, Prod.mk.injEq] at h
      obtain ⟨-, rfl⟩ := h
      exact (tokenize_suffix ht).trans hb

theorem splitFrom_eq (total skip : Nat) (trims : Bool) (s : List Char) :
    splitFrom total skip trims s = split total trims (s.drop skip) := by
  induction s generalizing skip with
  | nil => cases skip <;> rfl
  | cons c cs ih =>
    cases skip with
    | zero => rfl
    | succ n => simpa [splitFrom] using ih n

theorem split_eq (total : Nat) (trims : Bool) (s : List Char) :
    split total trims s =
      (let lead (text : List Char) := if trims then trimStart text else text
      match cut? "\x7b\x7b".toList s with
      | none => .ok (textSegment (lead s))
      | some (before, inner) => do
        let text := lead before
        let text := if trimsBefore inner then trimEnd text else text
        let (segments, closing) ← readInner total (total - byteLength inner - 2) inner
        let rest ← split total closing.trims closing.rest
        .ok (textSegment text ++ segments ++ rest)) := by
  cases s with
  | nil => cases trims <;> rfl
  | cons c cs =>
    rw [split, splitFrom]
    simp only
    cases hc : cut? "\x7b\x7b".toList (c :: cs) with
    | none => rfl
    | some r =>
      obtain ⟨before, inner⟩ := r
      cases hi : readInner total (total - byteLength inner - 2) inner with
      | error e => simp [hi, bind, Except.bind]
      | ok k =>
        obtain ⟨segments, closing⟩ := k
        have hs : closing.rest <:+ cs := (readInner_suffix hi).trans (cut?_suffix_tail (by decide) hc)
        simp only [hi, bind, Except.bind, splitFrom_eq, drop_length_sub hs]

end Rollout.Template
