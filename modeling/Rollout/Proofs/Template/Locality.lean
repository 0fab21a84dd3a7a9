import Rollout.Proofs.Template.Reading
import Rollout.Proofs.Text.Matching

/-!
# Reading is local

A token is read off the characters that it takes and at most two more. So an action or a comment is
read in the same way whatever stands behind its closing delimiter, and the characters in front of this
delimiter tell whether it trims.
-/

namespace Rollout.Template

open Text

/-! ## Characters at the end of a token -/

theorem getLast?_ne_of_notMem {c : Char} {s : List Char} (h : c ∉ s) : s.getLast? ≠ some c :=
  fun hs => h (List.mem_of_getLast? hs)

def endsToken (c : Char) : Bool :=
  isIdentChar c || c ∈ ['(', ')', '|', '"', '\x60', '.']

theorem endsToken_of_isIdentChar {c : Char} (h : isIdentChar c = true) : endsToken c = true := by
  rw [endsToken, h, Bool.true_or]

theorem isIdentChar_of_isIdentStart {c : Char} (h : isIdentStart c = true) : isIdentChar c = true := by
  rw [isIdentStart, Bool.or_eq_true] at h
  rcases h with h | h <;> simp [isIdentChar, h]

theorem isIdentChar_of_isDigit {c : Char} (h : c.isDigit = true) : isIdentChar c = true := by
  simp [isIdentChar, isNumeric_of_isDigit h]

theorem endsToken_of_takeWhile {p : Char → Bool} (hp : ∀ {c}, p c = true → isIdentChar c = true)
    {s : List Char} : ∀ c ∈ s.takeWhile p, endsToken c = true :=
  fun _ h => endsToken_of_isIdentChar (hp (List.mem_takeWhile_imp h))

theorem head?_dropWhile_false {p : Char → Bool} {s : List Char} :
    ∀ c ∈ (s.dropWhile p).head?, p c = false := by
  intro c hc
  have := List.head?_dropWhile_not p s
  rw [Option.mem_def.1 hc] at this
  simpa using this

/-- A row of characters with a property ends in the same way before two texts that start alike. -/
theorem takeWhile_dropWhile_append {p : Char → Bool} {s next : List Char}
    (h : next.head?.any p = (s.dropWhile p).head?.any p) :
    (s.takeWhile p ++ next).takeWhile p = s.takeWhile p ∧
      (s.takeWhile p ++ next).dropWhile p = next := by
  refine takeWhile_append_of_all (fun _ hc => List.mem_takeWhile_imp hc) ?_
  have hd : (s.dropWhile p).head?.any p = false := by
    rw [Option.any_eq_false_iff_get]
    exact fun hs => by simpa using head?_dropWhile_false _ (Option.some_get hs).symm
  rw [hd] at h
  intro c hc
  rwa [Option.mem_def.1 hc, Option.any_some] at h

theorem head?_eq_of_take {s t : List Char} (h : s.take 2 = t.take 2) : s.head? = t.head? := by
  cases s <;> cases t <;> simp_all

/-! ## Paths -/

/-- Whether a text starts with a dot and a name. -/
def startsPath : List Char → Bool
  | '.' :: c :: _ => isIdentStart c
  | _ => false

theorem startsPath_congr {s t : List Char} (h : s.take 2 = t.take 2) : startsPath s = startsPath t := by
  match s, t with
  | [], [] => rfl
  | [_], [_] =>
    simp only [List.take_succ_cons, List.take_nil, List.cons.injEq, and_true] at h
    rw [h]
  | a :: b :: _, a' :: b' :: _ =>
    simp only [List.take_succ_cons, List.take_zero, List.cons.injEq, and_true] at h
    obtain ⟨rfl, rfl⟩ := h
    unfold startsPath
    split <;> simp_all
  | [], _ :: _ | _ :: _, [] | [_], _ :: _ :: _ | _ :: _ :: _, [_] => simp at h

theorem startsPath_cons (c : Char) (s : List Char) :
    startsPath (c :: s) = (c = '.' && s.head?.any isIdentStart) := by
  unfold startsPath
  split
  · rename_i he
    cases he
    rfl
  · rename_i h
    by_cases hc : c = '.'
    · cases s with
      | nil => simp
      | cons d s => exact (h d s (hc ▸ rfl)).elim
    · simp [hc]

/-- Texts that are the same to a token in front of them, which a path, a name or a number in them may
continue. -/
structure AlikeAhead (s t : List Char) : Prop where
  path : startsPath s = startsPath t
  start : s.head?.any isIdentStart = t.head?.any isIdentStart
  name : s.head?.any isIdentChar = t.head?.any isIdentChar
  digit : s.head?.any Char.isDigit = t.head?.any Char.isDigit

theorem AlikeAhead.of_take {s t : List Char} (h : s.take 2 = t.take 2) : AlikeAhead s t := by
  have hh := head?_eq_of_take h
  exact ⟨startsPath_congr h, by rw [hh], by rw [hh], by rw [hh]⟩

theorem AlikeAhead.append {s t : List Char} (h : AlikeAhead s t) (l : List Char) :
    AlikeAhead (l ++ s) (l ++ t) := by
  induction l with
  | nil => exact h
  | cons c l ih => exact ⟨by simp only [List.cons_append, startsPath_cons, ih.start], rfl, rfl, rfl⟩

theorem scanPath_of_not_startsPath {s : List Char} (h : startsPath s = false) :
    scanPath s = ([], s) := by
  rw [scanPath]
  unfold scanPathFrom
  split <;> simp_all [startsPath]

theorem exists_of_startsPath {s : List Char} (h : startsPath s = true) :
    ∃ c cs, s = '.' :: c :: cs ∧ isIdentStart c = true := by
  unfold startsPath at h
  split at h
  · exact ⟨_, _, rfl, h⟩
  · cases h

theorem scanPath_nil_iff {s rest : List Char} :
    scanPath s = ([], rest) ↔ startsPath s = false ∧ rest = s := by
  constructor
  · intro h
    have hs : startsPath s = false := by
      by_contra hs
      rw [Bool.not_eq_false] at hs
      obtain ⟨c, cs, rfl, hc⟩ := exists_of_startsPath hs
      rw [scanPath_name hc] at h
      cases h
    rw [scanPath_of_not_startsPath hs] at h
    cases h
    exact ⟨hs, rfl⟩
  · rintro ⟨hs, rfl⟩
    exact scanPath_of_not_startsPath hs

theorem scanPath_local {s rest : List Char} {path : List String} (h : scanPath s = (path, rest)) :
    ∃ l, s = l ++ rest ∧ (∀ c ∈ l, endsToken c = true) ∧
      ∀ next, AlikeAhead next rest → scanPath (l ++ next) = (path, next) := by
  induction hn : s.length using Nat.strongRecOn generalizing s path with
  | ind n ih =>
    by_cases hs : startsPath s = true
    · obtain ⟨c, cs, rfl, hc⟩ := exists_of_startsPath hs
      rw [scanPath_name hc, Prod.mk.injEq] at h
      obtain ⟨rfl, rfl⟩ := h
      have lt : (cs.dropWhile isIdentChar).length < n := by
        have := (List.dropWhile_suffix isIdentChar (l := cs)).length_le
        simp only [← hn, List.length_cons]
        omega
      obtain ⟨l, hl, hm, hnext⟩ := ih _ lt rfl rfl
      refine ⟨'.' :: c :: (cs.takeWhile isIdentChar ++ l), ?_, ?_, ?_⟩
      · rw [List.cons_append, List.cons_append, List.append_assoc, ← hl,
          List.takeWhile_append_dropWhile]
      · simp only [List.forall_mem_cons, List.forall_mem_append]
        exact ⟨by decide, endsToken_of_isIdentChar (isIdentChar_of_isIdentStart hc),
          endsToken_of_takeWhile id, hm⟩
      · intro next hr
        have hh := (hr.append l).name
        rw [← hl] at hh
        obtain ⟨ht, hd⟩ := takeWhile_dropWhile_append hh
        rw [List.cons_append, List.cons_append, List.append_assoc, scanPath_name hc, ht, hd,
          hnext next hr]
        rfl
    · rw [Bool.not_eq_true] at hs
      rw [scanPath_of_not_startsPath hs, Prod.mk.injEq] at h
      obtain ⟨rfl, rfl⟩ := h
      refine ⟨[], rfl, List.forall_mem_nil _, fun next hr => ?_⟩
      rw [← hr.path] at hs
      exact scanPath_of_not_startsPath hs

theorem scanPath_dot_local {cs rest next : List Char} (h : scanPath ('.' :: cs) = ([], rest))
    (hn : AlikeAhead next cs) : scanPath ('.' :: next) = ([], '.' :: next) := by
  apply scanPath_of_not_startsPath
  rw [← (scanPath_nil_iff.1 h).1]
  exact (hn.append ['.']).path

theorem scanPath_names_local {cs rest : List Char} {path : List String}
    (h : scanPath ('.' :: cs) = (path, rest)) (hp : path ≠ []) :
    ∃ l, cs = l ++ rest ∧ (∀ c ∈ '.' :: l, endsToken c = true) ∧
      ∀ next, AlikeAhead next rest → scanPath ('.' :: (l ++ next)) = (path, next) := by
  obtain ⟨l, hl, hm, hnext⟩ := scanPath_local h
  cases l with
  | nil =>
    -- Names take at least the dot in front of them.
    have := (scanPath_suffix_tail h hp).length_le
    have := congrArg List.length hl
    simp only [List.nil_append, List.length_cons] at this
    omega
  | cons a l =>
    rw [List.cons_append, List.cons.injEq] at hl
    obtain ⟨rfl, rfl⟩ := hl
    exact ⟨l, rfl, hm, hnext⟩

/-! ## Tokens -/

theorem scanQuoted_append {x : List Char} (hq : '"' ∉ x) (hb : '\\' ∉ x) (s : List Char) :
    scanQuoted (x ++ s) = (scanQuoted s).map fun r => (x ++ r.1, r.2) := by
  induction x with
  | nil => simp
  | cons c x ih =>
    rw [List.mem_cons, not_or] at hq hb
    have hx := ih hq.2 hb.2
    rw [List.cons_append, scanQuoted, hx, Option.map_map]
    · rfl
    · exact fun he => hq.1 he.symm
    · exact fun he _ => hb.1 he.symm
    · exact fun _ _ he _ => hb.1 he.symm

theorem scanQuoted_cons {c : Char} (hq : c ≠ '"') (hb : c ≠ '\\') (s : List Char) :
    scanQuoted (c :: s) = (scanQuoted s).map fun r => (c :: r.1, r.2) :=
  scanQuoted_append (x := [c]) (by simpa using hq.symm) (by simpa using hb.symm) s

theorem scanQuoted_local {s chars rest : List Char} (h : scanQuoted s = some (chars, rest)) :
    ∃ l, s = l ++ '"' :: rest ∧ ∀ next, scanQuoted (l ++ '"' :: next) = some (chars, next) := by
  fun_induction scanQuoted s generalizing chars rest with
  | case1 => cases h
  | case2 s =>
    cases h
    exact ⟨[], rfl, fun next => rfl⟩
  | case3 => cases h
  | case4 =>
    rename_i c s d ih
    obtain ⟨⟨chars', rest'⟩, h', he⟩ := Option.map_eq_some_iff.1 h
    cases he
    obtain ⟨l, rfl, hnext⟩ := ih h'
    refine ⟨'\\' :: c :: l, rfl, fun next => ?_⟩
    rw [List.cons_append, List.cons_append, scanQuoted, hnext next]
    rfl
  | case5 c s h1 h2 h3 ih =>
    obtain ⟨⟨chars', rest'⟩, h', he⟩ := Option.map_eq_some_iff.1 h
    cases he
    obtain ⟨l, rfl, hnext⟩ := ih h'
    refine ⟨c :: l, rfl, fun next => ?_⟩
    have hc : c ≠ '\\' := by
      rintro rfl
      cases l <;> exact h3 _ _ rfl rfl
    rw [List.cons_append, scanQuoted, hnext next]
    · rfl
    · exact h1
    · exact fun he _ => hc he
    · exact fun _ _ he _ => hc he

theorem scanInt_local {pos : Nat} {negative : Bool} {s rest : List Char} {token : Token}
    (h : scanInt pos negative s = .ok (token, rest)) :
    ∃ l, s = l ++ rest ∧ l ≠ [] ∧ (∀ c ∈ l, endsToken c = true) ∧
      ∀ next, AlikeAhead next rest → scanInt pos negative (l ++ next) = .ok (token, next) := by
  have hr := scanInt_rest h
  refine ⟨s.takeWhile Char.isDigit, ?_, ?_, endsToken_of_takeWhile isIdentChar_of_isDigit, ?_⟩
  · rw [hr, List.takeWhile_append_dropWhile]
  · intro hd
    simp [scanInt, hd] at h
  · intro next hnext
    rw [hr] at hnext
    obtain ⟨ht, hd⟩ := takeWhile_dropWhile_append hnext.digit
    unfold scanInt at h ⊢
    simp only [ht, hd] at h ⊢
    split at h
    · cases h
    · rename_i hne
      rw [if_neg hne]
      split at h <;> cases h
      rfl

theorem scanInt_cons_local {pos : Nat} {negative : Bool} {c : Char} {cs rest : List Char} {token : Token}
    (h : scanInt pos negative (c :: cs) = .ok (token, rest)) :
    ∃ l, cs = l ++ rest ∧ (∀ d ∈ c :: l, endsToken d = true) ∧ ∀ next, AlikeAhead next rest →
      scanInt pos negative (c :: (l ++ next)) = .ok (token, next) := by
  obtain ⟨l, hl, hne, hm, hnext⟩ := scanInt_local h
  obtain ⟨a, l, rfl⟩ := List.exists_cons_of_ne_nil hne
  rw [List.cons_append, List.cons.injEq] at hl
  obtain ⟨rfl, rfl⟩ := hl
  exact ⟨l, rfl, hm, hnext⟩

theorem getLast?_singleton {c : Char} (h : endsToken c = true) :
    ∀ d ∈ [c].getLast?, endsToken d = true := by
  rintro d ⟨⟩
  exact h

theorem getLast?_of_all {s : List Char} (h : ∀ c ∈ s, endsToken c = true) :
    ∀ c ∈ s.getLast?, endsToken c = true :=
  fun c hc => h c (List.mem_of_getLast? hc)

/-- A token ends with one of a few characters, and is read in the same way before texts that are alike
to it. -/
theorem scanToken_local {pos : Nat} {glued : Bool} {c : Char} {cs rest : List Char} {token : Token}
    (h : scanToken pos glued (c :: cs) = .ok (token, rest)) :
    ∃ l, cs = l ++ rest ∧ (∀ d ∈ (c :: l).getLast?, endsToken d = true) ∧
      ∀ next, AlikeAhead next rest →
        scanToken pos glued (c :: (l ++ next)) = .ok (token, next) := by
  unfold scanToken at h
  split at h <;> rename_i hc
  · cases hc
  all_goals cases hc
  · cases h
    exact ⟨[], rfl, getLast?_singleton rfl, fun next _ => rfl⟩
  · cases h
    exact ⟨[], rfl, getLast?_singleton rfl, fun next _ => rfl⟩
  · cases h
    exact ⟨[], rfl, getLast?_singleton rfl, fun next _ => rfl⟩
  · split at h
    · rename_i hq
      cases h
      obtain ⟨l, rfl, hnext⟩ := scanQuoted_local hq
      refine ⟨l ++ ['"'], by simp, ?_, fun next _ => ?_⟩
      · rw [← List.cons_append, List.getLast?_concat]
        exact getLast?_singleton rfl
      · simp [scanToken, hnext next]
    · cases h
  · split at h
    · rename_i chars rest' hq
      cases h
      refine ⟨chars ++ ['\x60'], eq_of_cut? hq, ?_, fun next _ => ?_⟩
      · rw [← List.cons_append, List.getLast?_concat]
        exact getLast?_singleton rfl
      · simp only [scanToken, cut?_append (by simp) hq next]
    · cases h
  · obtain ⟨l, rfl, hl, hm, hnext⟩ := scanInt_local h
    refine ⟨l, rfl, ?_, hnext⟩
    rw [List.getLast?_cons_of_ne_nil hl]
    exact getLast?_of_all hm
  · split at h
    · rename_i hp
      cases h
      refine ⟨[], rfl, getLast?_singleton rfl, fun next hr => ?_⟩
      simp only [List.nil_append, scanToken, scanPath_dot_local hp hr]
    · rename_i hne hp
      cases h
      obtain ⟨l, rfl, hm, hnext⟩ := scanPath_names_local hp hne
      refine ⟨l, rfl, getLast?_of_all hm, fun next hr => ?_⟩
      simp only [scanToken, hnext next hr]
  · split at h
    · rename_i hd
      obtain ⟨l, rfl, hm, hnext⟩ := scanInt_cons_local h
      refine ⟨l, rfl, getLast?_of_all hm, fun next hr => ?_⟩
      rw [scanToken, if_pos hd]
      · exact hnext next hr
      all_goals assumption
    · rename_i hd
      split at h
      · rename_i hi
        cases h
        refine ⟨_, List.takeWhile_append_dropWhile.symm, getLast?_of_all ?_, fun next hr => ?_⟩
        · rw [List.forall_mem_cons]
          exact ⟨endsToken_of_isIdentChar (isIdentChar_of_isIdentStart hi), endsToken_of_takeWhile id⟩
        · obtain ⟨ht, hw⟩ := takeWhile_dropWhile_append hr.name
          rw [scanToken, if_neg hd, if_pos hi, ht, hw]
          all_goals assumption
      · cases h

/-! ## Ends of marks -/

/-- A text in front of a closing delimiter, with a mark that trims what is behind it or without. -/
inductive Ends : (trims : Bool) → List Char → Prop where
  | trim {before b} : isBlank b = true → Ends true (before ++ [b, '-'])
  | plain {body} : body.getLast? ≠ some '-' → Ends false body

theorem Ends.append {trims : Bool} {body : List Char} (h : Ends trims body) {x : List Char}
    (hx : body = [] → x.getLast? ≠ some '-') : Ends trims (x ++ body) := by
  cases h with
  | @trim before b hb =>
    rw [← List.append_assoc]
    exact .trim hb
  | plain hl =>
    apply Ends.plain
    rw [List.getLast?_append]
    cases hb : body.getLast? with
    | none => exact hx (List.getLast?_eq_none_iff.1 hb)
    | some c =>
      rw [hb] at hl
      exact hl

theorem Ends.of_blanks {blanks : List Char} (hb : ∀ c ∈ blanks, isBlank c = true) (hn : blanks ≠ []) :
    Ends true (blanks ++ ['-']) := by
  rw [← List.dropLast_append_getLast hn, List.append_assoc]
  exact .trim (hb _ (List.getLast_mem hn))

theorem Ends.trimsBefore_eq {trims : Bool} {body : List Char} (h : Ends trims body) :
    trimsBefore (body.reverse ++ "\x7b\x7b".toList) = trims := by
  cases h with
  | trim hb =>
    rw [List.reverse_append]
    exact hb
  | plain hl =>
    rw [← List.head?_reverse] at hl
    cases hr : body.reverse with
    | nil => rfl
    | cons c s =>
      rw [hr, List.head?_cons, ne_eq, Option.some.injEq] at hl
      unfold trimsBefore
      split
      · rename_i he
        rw [List.cons_append, List.cons.injEq] at he
        exact absurd he.1 hl
      · rfl

theorem blank_getLast?_ne {s : List Char} (h : ∀ c ∈ s, isBlank c = true) : s.getLast? ≠ some '-' :=
  getLast?_ne_of_notMem fun hm => absurd (h '-' hm) (by decide)

/-! ## Blanks before a delimiter -/

theorem exists_blanks {s rest : List Char} (h : trimStart s = rest) :
    ∃ blanks, s = blanks ++ rest ∧ ∀ c ∈ blanks, isBlank c = true :=
  ⟨s.takeWhile isBlank, by rw [← h, trimStart, List.takeWhile_append_dropWhile],
    fun _ hc => List.mem_takeWhile_imp hc⟩

theorem trimStart_append_of_all {blanks next : List Char} (hb : ∀ c ∈ blanks, isBlank c = true)
    (hn : ∀ c ∈ next.head?, isBlank c = false) : trimStart (blanks ++ next) = next :=
  (takeWhile_append_of_all hb hn).2

theorem trimStart_append_close (s next : List Char) :
    trimStart (s ++ "\x7d\x7d".toList ++ next) = trimStart s ++ "\x7d\x7d".toList ++ next := by
  induction s with
  | nil => rfl
  | cons c s ih =>
    simp only [trimStart, List.cons_append, List.dropWhile_cons] at ih ⊢
    split
    · exact ih
    · rfl

theorem length_append_close (s : List Char) : 2 ≤ (s ++ "\x7d\x7d".toList).length := by
  rw [List.length_append]
  exact Nat.le_add_left _ _

theorem take_append_close (s next next' : List Char) :
    (s ++ "\x7d\x7d".toList ++ next).take 2 = (s ++ "\x7d\x7d".toList ++ next').take 2 := by
  rw [List.take_append_of_le_length (length_append_close s),
    List.take_append_of_le_length (length_append_close s)]

/-- A pattern that is not in front of a closing delimiter is not in front of it before another text. -/
theorem strip?_trimStart_none {p s next : List Char} (hp : p.length ≤ 2 ∨ p = "-\x7d\x7d".toList)
    (h : strip? p (trimStart (s ++ "\x7d\x7d".toList ++ next)) = none) (next' : List Char) :
    strip? p (trimStart (s ++ "\x7d\x7d".toList ++ next')) = none := by
  rw [trimStart_append_close] at h ⊢
  rcases hp with hp | rfl
  · exact strip?_none_of_append (hp.trans (length_append_close _)) h next'
  · cases ht : trimStart s with
    | nil => rfl
    | cons c t =>
      rw [ht] at h
      refine strip?_none_of_append ?_ h next'
      rw [List.length_append, List.length_cons]
      exact Nat.add_le_add_right (Nat.le_add_left 1 _) 2

/-! ## Marks -/

theorem Tokenized.exists_body {glued : Bool} {s : List Char} {tokens : List Token} {closing : Closing}
    (h : Tokenized glued s tokens (some closing)) :
    ∃ body, s = body ++ "\x7d\x7d".toList ++ closing.rest ∧ Ends closing.trims body ∧
      ∀ next, Tokenized glued (body ++ "\x7d\x7d".toList ++ next) tokens
        (some ⟨next, closing.trims⟩) := by
  generalize ho : some closing = o at h
  induction h with
  | nil => cases ho
  | @trim glued c cs rest hb hs =>
    cases ho
    obtain ⟨blanks, rfl, hbs⟩ := exists_blanks (strip?_eq_some_iff.1 hs)
    have hcs : ∀ d ∈ c :: blanks, isBlank d = true := List.forall_mem_cons.2 ⟨hb, hbs⟩
    refine ⟨c :: blanks ++ ['-'], ?_, .of_blanks hcs (List.cons_ne_nil c blanks), fun next => ?_⟩
    · rw [List.append_assoc, List.append_assoc]
      rfl
    · rw [List.append_assoc, List.append_assoc, List.cons_append]
      refine .trim hb ?_
      rw [trimStart_append_of_all hbs]
      · rfl
      · rintro d ⟨⟩
        rfl
  | @blank glued c cs tokens o hb hs _ ih =>
    obtain ⟨body, rfl, he, hnext⟩ := ih ho
    refine ⟨c :: body, rfl, he.append (x := [c]) fun _ => ?_, fun next => ?_⟩
    · exact blank_getLast?_ne (List.forall_mem_singleton.2 hb)
    · exact .blank hb (strip?_trimStart_none (.inr rfl) hs next) (hnext next)
  | @close glued c cs rest hb hs =>
    cases ho
    exact ⟨[], strip?_eq_some_iff.1 hs, .plain (by simp), fun next => .close rfl rfl⟩
  | @token glued c cs token rest tokens o hb hs ht _ ih =>
    obtain ⟨body, rfl, he, hnext⟩ := ih ho
    obtain ⟨l, rfl, hl, hlocal⟩ := scanToken_local ht
    have assoc (next : List Char) : c :: l ++ body ++ "\x7d\x7d".toList ++ next =
        c :: (l ++ (body ++ "\x7d\x7d".toList ++ next)) := by
      simp only [List.cons_append, List.append_assoc]
    have hl' : (c :: l).getLast? ≠ some '-' := fun h => absurd (hl '-' h) (by decide)
    refine ⟨c :: l ++ body, (assoc _).symm, he.append fun _ => hl', fun next => ?_⟩
    rw [← assoc] at hs
    have hs' := strip?_none_of_append (p := "\x7d\x7d".toList) (length_append_close _) hs next
    have hr := hlocal _ (.of_take (take_append_close body next closing.rest))
    rw [assoc] at hs' ⊢
    exact .token hb hs' hr (hnext next)

/-- The end of a comment, with a mark that trims what is behind it or without. -/
inductive CommentEnds (s : List Char) : Closing → Prop where
  | trim {text blanks rest} : cut? "*/".toList s = some (text, blanks ++ ("-\x7d\x7d".toList ++ rest)) →
      (∀ c ∈ blanks, isBlank c = true) → blanks ≠ [] → CommentEnds s ⟨rest, true⟩
  | plain {text blanks rest} : cut? "*/".toList s = some (text, blanks ++ ("\x7d\x7d".toList ++ rest)) →
      (∀ c ∈ blanks, isBlank c = true) → CommentEnds s ⟨rest, false⟩

theorem commentEnds_iff {s : List Char} {closing : Closing} :
    closeComment? s = some closing ↔ CommentEnds s closing := by
  constructor
  · intro h
    unfold closeComment? at h
    split at h
    · cases h
    · rename_i text rest hc
      obtain ⟨blanks, hr, hb⟩ := exists_blanks (rfl : trimStart rest = _)
      simp only at h
      split at h
      · rename_i next hm
        split at h
        · rename_i hl
          cases h
          have hne : blanks ≠ [] := by
            rintro rfl
            rw [List.nil_append] at hr
            rw [← hr] at hl
            exact lt_irrefl _ hl
          rw [hr, strip?_eq_some_iff.1 hm] at hc
          exact .trim hc hb hne
        · cases h
      · obtain ⟨next, hm, rfl⟩ := Option.map_eq_some_iff.1 h
        rw [hr, strip?_eq_some_iff.1 hm] at hc
        exact .plain hc hb
  · intro h
    cases h with
    | @trim text blanks rest hc hb hne =>
      have hn : trimStart (blanks ++ ("-\x7d\x7d".toList ++ rest)) = "-\x7d\x7d".toList ++ rest :=
        trimStart_append_of_all hb (by rintro c ⟨⟩; rfl)
      have hl : ("-\x7d\x7d".toList ++ rest).length <
          (blanks ++ ("-\x7d\x7d".toList ++ rest)).length := by
        have := List.length_pos_iff.2 hne
        simp only [List.length_append]
        omega
      simp only [closeComment?, hc, hn, strip?_append_self, if_pos hl]
    | @plain text blanks rest hc hb =>
      have hn : trimStart (blanks ++ ("\x7d\x7d".toList ++ rest)) = "\x7d\x7d".toList ++ rest :=
        trimStart_append_of_all hb (by rintro c ⟨⟩; rfl)
      have hm : strip? "-\x7d\x7d".toList ("\x7d\x7d".toList ++ rest) = none := rfl
      simp only [closeComment?, hc, hn, hm, strip?_append_self, Option.map_some]

theorem CommentEnds.exists_body {s : List Char} {closing : Closing} (h : CommentEnds s closing) :
    ∃ body, s = body ++ "\x7d\x7d".toList ++ closing.rest ∧ Ends closing.trims body ∧
      ∀ next, CommentEnds (body ++ "\x7d\x7d".toList ++ next) ⟨next, closing.trims⟩ := by
  have ht (text : List Char) : (text ++ "*/".toList).getLast? ≠ some '-' := by
    rw [List.getLast?_append]
    exact fun h => absurd (Option.some.inj h) (by decide)
  cases h with
  | @trim text blanks rest hc hb hne =>
    have he := (Ends.of_blanks hb hne).append fun _ => ht text
    refine ⟨text ++ "*/".toList ++ (blanks ++ ['-']), ?_, he, ?_⟩
    · rw [eq_of_cut? hc]
      simp
    · intro next
      have hn := cut?_append (by decide) hc (blanks ++ ("-\x7d\x7d".toList ++ next))
      simpa using CommentEnds.trim hn hb hne
  | @plain text blanks rest hc hb =>
    have he : Ends false blanks := .plain (blank_getLast?_ne hb)
    refine ⟨text ++ "*/".toList ++ blanks, ?_, he.append fun _ => ht text, ?_⟩
    · rw [eq_of_cut? hc]
      simp
    · intro next
      have hn := cut?_append (by decide) hc (blanks ++ ("\x7d\x7d".toList ++ next))
      simpa using CommentEnds.plain hn hb

theorem exists_of_trimsBefore {s : List Char} (h : trimsBefore s = true) :
    ∃ c t, s = '-' :: c :: t ∧ isBlank c = true := by
  unfold trimsBefore at h
  split at h
  · exact ⟨_, _, rfl, h⟩
  · cases h

theorem trimsBefore_append {s : List Char} (h : 2 ≤ s.length) (next : List Char) :
    trimsBefore (s ++ next) = trimsBefore s := by
  match s with
  | [] | [_] => simp at h
  | a :: b :: s =>
    rw [List.cons_append, List.cons_append]
    unfold trimsBefore
    split <;> simp_all

theorem innerBody_append {s : List Char} (h : 2 ≤ s.length) (next : List Char) :
    innerBody (s ++ next) = innerBody s ++ next := by
  unfold innerBody
  rw [trimsBefore_append h]
  split
  · rw [List.drop_append_of_le_length (by omega)]
  · rfl

theorem exists_body_of_innerBody {inner body rest : List Char} {trims : Bool}
    (h : innerBody inner = body ++ "\x7d\x7d".toList ++ rest) (he : Ends trims body) :
    ∃ body', inner = body' ++ "\x7d\x7d".toList ++ rest ∧ Ends trims body' ∧
      ∀ next, innerBody (body' ++ "\x7d\x7d".toList ++ next) = body ++ "\x7d\x7d".toList ++ next := by
  obtain ⟨x, hx, hl⟩ : ∃ x, inner = x ++ innerBody inner ∧ (body = [] → x.getLast? ≠ some '-') := by
    by_cases ht : trimsBefore inner = true
    · obtain ⟨c, s, rfl, hb⟩ := exists_of_trimsBefore ht
      have hs : innerBody ('-' :: c :: s) = c :: s := if_pos hb
      refine ⟨['-'], by rw [hs]; rfl, ?_⟩
      -- A blank stands behind the minus sign, so the body is not empty.
      rintro rfl
      rw [hs] at h
      cases h
      exact absurd hb (by decide)
    · exact ⟨[], by rw [innerBody, if_neg ht]; rfl, fun _ => by simp⟩
  rw [h, ← List.append_assoc, ← List.append_assoc] at hx
  refine ⟨x ++ body, hx, he.append hl, fun next => ?_⟩
  have hc := length_append_close (x ++ body)
  rw [hx, innerBody_append hc, List.append_cancel_right_eq] at h
  rw [innerBody_append hc, h]

theorem InnerRead.exists_body {inner : List Char} {nodes : List Node} {closing : Closing}
    (h : InnerRead inner nodes closing) :
    ∃ body, inner = body ++ "\x7d\x7d".toList ++ closing.rest ∧ Ends closing.trims body ∧
      ∀ next, InnerRead (body ++ "\x7d\x7d".toList ++ next) nodes ⟨next, closing.trims⟩ := by
  cases h with
  | @comment text _ hs hc =>
    obtain ⟨body, rfl, he, hnext⟩ := (commentEnds_iff.1 hc).exists_body
    obtain ⟨blanks, hi, hb⟩ := exists_blanks (strip?_eq_some_iff.1 hs)
    have ht : (blanks ++ "/*".toList).getLast? ≠ some '-' := by
      rw [List.getLast?_append]
      exact fun h => absurd (Option.some.inj h) (by decide)
    have hi' : innerBody inner =
        blanks ++ "/*".toList ++ body ++ "\x7d\x7d".toList ++ closing.rest := by
      rw [hi]
      simp
    obtain ⟨body', hx, he', hnext'⟩ := exists_body_of_innerBody hi' (he.append fun _ => ht)
    refine ⟨body', hx, he', fun next => .comment ?_ (commentEnds_iff.2 (hnext next))⟩
    rw [hnext' next, List.append_assoc, List.append_assoc, List.append_assoc,
      trimStart_append_of_all hb (by rintro c ⟨⟩; rfl), strip?_append_self, List.append_assoc]
  | action hs ht hp =>
    obtain ⟨body, hb, he, hnext⟩ := ht.exists_body
    obtain ⟨body', hx, he', hnext'⟩ := exists_body_of_innerBody hb he
    refine ⟨body', hx, he', fun next => .action ?_ ?_ hp⟩
    · rw [hb] at hs
      rw [hnext' next]
      exact strip?_trimStart_none (.inl le_rfl) hs next
    · rw [hnext' next]
      exact hnext next

end Rollout.Template
