import Rollout.Proofs.Placeholder.Trimming

/-!
# Texts with and without escape marks

A row of plain characters and sentinels, written with the escape mark behind each sentinel or without
it. No mark and no at sign is in a pattern that the template language looks for: whether and where a
pattern is found does not depend on the marks.
-/

namespace Rollout.Placeholder

open Text Template

/-- The text of a sentinel that was there before, with its mark or without. -/
def markText (escaped : Bool) : List Char :=
  if escaped then sentinel ++ [escapeMark] else sentinel

/-- A row of plain characters and sentinels as a text. A placeholder, of which there is none in such a
row, counts as a sentinel. -/
def written (escaped : Bool) : List Piece → List Char
  | [] => []
  | .plain c :: pieces => c :: written escaped pieces
  | .marked :: pieces | .reserved _ :: pieces => markText escaped ++ written escaped pieces

theorem markText_eq_cons (escaped : Bool) : ∃ t, markText escaped = '@' :: t := by
  cases escaped <;> exact ⟨_, rfl⟩

theorem notMem_markText {a : Char} (h : a ∉ "@ANSIBLE~".toList) (escaped : Bool) :
    a ∉ markText escaped := by
  intro hm
  apply h
  cases escaped
  · exact (by decide : markText false ⊆ "@ANSIBLE~".toList) hm
  · exact hm

variable {e : Bool} {ps : List Piece}

theorem written_append (e : Bool) (ps qs : List Piece) :
    written e (ps ++ qs) = written e ps ++ written e qs := by
  induction ps with
  | nil => rfl
  | cons piece ps ih =>
    cases piece with
    | plain c => exact congrArg (c :: ·) ih
    | marked | reserved => simp only [List.cons_append, written, ih, List.append_assoc]

theorem written_plain (e : Bool) (s : List Char) : written e (s.map .plain) = s := by
  induction s with
  | nil => rfl
  | cons c s ih => exact congrArg (c :: ·) ih

theorem writes_written (e : Bool) : Writes fun piece => written e [piece] := by
  refine ⟨fun _ => rfl, fun {piece} h => ?_⟩
  cases piece with
  | plain c => exact absurd rfl (h c)
  | marked | reserved => cases e <;> exact ⟨_, _, rfl, rfl, by decide⟩

theorem writes_written_reverse (e : Bool) :
    Writes (List.reverse ∘ fun piece => written e [piece]) := by
  refine ⟨fun _ => rfl, fun {piece} h => ?_⟩
  cases piece with
  | plain c => exact absurd rfl (h c)
  | marked | reserved => cases e <;> exact ⟨_, _, rfl, rfl, by decide⟩

theorem written_eq_flatMap (e : Bool) (ps : List Piece) :
    written e ps = ps.flatMap fun piece => written e [piece] := by
  induction ps with
  | nil => rfl
  | cons piece ps ih =>
    rw [List.flatMap_cons, ← ih]
    exact written_append e [piece] ps

theorem exists_of_written_eq {x rest : List Char} (hx : '@' ∉ x) (h : written e ps = x ++ rest) :
    ∃ qs, ps = x.map .plain ++ qs ∧ rest = written e qs := by
  induction x generalizing ps with
  | nil => exact ⟨ps, rfl, h.symm⟩
  | cons a x ih =>
    rw [List.mem_cons, not_or] at hx
    obtain ⟨t, ht⟩ := markText_eq_cons e
    cases ps with
    | nil => cases h
    | cons piece ps =>
      cases piece with
      | plain c =>
        obtain ⟨rfl, hr⟩ := List.cons.inj h
        obtain ⟨qs, rfl, rfl⟩ := ih hx.2 hr
        exact ⟨qs, rfl, rfl⟩
      | marked | reserved =>
        rw [written, ht] at h
        exact absurd (List.cons.inj h).1 hx.1

theorem exists_cons_of_written {c : Char} {s : List Char} (h : written e ps = c :: s) (e' : Bool) :
    ∃ s', written e' ps = c :: s' := by
  obtain ⟨t, ht⟩ := markText_eq_cons e
  obtain ⟨t', ht'⟩ := markText_eq_cons e'
  cases ps with
  | nil => cases h
  | cons piece ps =>
    cases piece with
    | plain d =>
      obtain ⟨rfl, -⟩ := List.cons.inj h
      exact ⟨_, rfl⟩
    | marked | reserved =>
      rw [written, ht] at h
      obtain ⟨rfl, -⟩ := List.cons.inj h
      exact ⟨_, by rw [written, ht', List.cons_append]⟩

theorem suffix_of_plain {w : List Char} {ps qs : List Piece} (h : ps = w.map .plain ++ qs) :
    qs <:+ ps :=
  ⟨_, h.symm⟩

theorem written_take_two (ps : List Piece) (e e' : Bool) :
    (written e ps).take 2 = (written e' ps).take 2 := by
  match ps with
  | [] | [.plain _] | .plain _ :: .plain _ :: _ => rfl
  | .marked :: _ | .reserved _ :: _ | .plain _ :: .marked :: _ | .plain _ :: .reserved _ :: _ =>
    cases e <;> cases e' <;> rfl

/-! ## Patterns -/

theorem strip?_written {p : List Char} (hp : '@' ∉ p) (ps : List Piece) :
    (∀ e, strip? p (written e ps) = none) ∨
      ∃ qs, ps = p.map .plain ++ qs ∧ ∀ e, strip? p (written e ps) = some (written e qs) := by
  by_cases h : ∃ qs, ps = p.map .plain ++ qs
  · obtain ⟨qs, rfl⟩ := h
    refine .inr ⟨qs, rfl, fun e => ?_⟩
    rw [written_append, written_plain, strip?_append_self]
  · refine .inl fun e => strip?_eq_none_iff.2 ?_
    rintro ⟨r, hr⟩
    obtain ⟨qs, hq, -⟩ := exists_of_written_eq hp hr.symm
    exact h ⟨qs, hq⟩

theorem strip?_some_written {p : List Char} (hp : '@' ∉ p) {rest : List Char}
    (h : strip? p (written e ps) = some rest) :
    ∃ qs, qs <:+ ps ∧ rest = written e qs ∧ ∀ e', strip? p (written e' ps) = some (written e' qs) := by
  rcases strip?_written hp ps with hn | ⟨qs, rfl, hs⟩
  · rw [hn] at h
    cases h
  · rw [hs] at h
    cases h
    exact ⟨qs, List.suffix_append _ _, rfl, hs⟩

theorem strip?_none_written {p : List Char} (hp : '@' ∉ p) (h : strip? p (written e ps) = none)
    (e' : Bool) : strip? p (written e' ps) = none := by
  rcases strip?_written hp ps with hn | ⟨qs, -, hs⟩
  · exact hn e'
  · rw [hs] at h
    cases h

theorem takeWhile_written {p : Char → Bool} (hp : p '@' = false) (ps : List Piece) :
    ∃ (w : List Char) (qs : List Piece), ps = w.map .plain ++ qs ∧
      ∀ e, (written e ps).takeWhile p = w ∧ (written e ps).dropWhile p = written e qs := by
  have stop (e : Bool) (qs : List Piece) :
      (markText e ++ written e qs).takeWhile p = [] ∧
        (markText e ++ written e qs).dropWhile p = markText e ++ written e qs := by
    obtain ⟨t, ht⟩ := markText_eq_cons e
    simp [ht, hp]
  induction ps with
  | nil => exact ⟨[], [], rfl, fun _ => ⟨rfl, rfl⟩⟩
  | cons piece ps ih =>
    cases piece with
    | plain c =>
      by_cases hc : p c = true
      · obtain ⟨w, qs, rfl, hw⟩ := ih
        refine ⟨c :: w, qs, rfl, fun e => ?_⟩
        obtain ⟨ht, hd⟩ := hw e
        exact ⟨by rw [written, List.takeWhile_cons_of_pos hc, ht],
          by rw [written, List.dropWhile_cons_of_pos hc, hd]⟩
      · exact ⟨[], .plain c :: ps, rfl, fun e =>
          ⟨List.takeWhile_cons_of_neg hc, List.dropWhile_cons_of_neg hc⟩⟩
    | marked | reserved => exact ⟨[], _ :: ps, rfl, fun e => stop e ps⟩

theorem trimStart_written (ps : List Piece) :
    ∃ qs, qs <:+ ps ∧ ∀ e, trimStart (written e ps) = written e qs := by
  obtain ⟨w, qs, hq, hw⟩ := takeWhile_written (p := isBlank) rfl ps
  exact ⟨qs, suffix_of_plain hq, fun e => (hw e).2⟩

theorem cut?_written {a : Char} {p : List Char} (ha : a ∉ "@ANSIBLE~".toList) (hp : '@' ∉ p)
    (ps : List Piece) :
    (∀ e, cut? (a :: p) (written e ps) = none) ∨
      ∃ bs qs, ps = bs ++ (a :: p).map .plain ++ qs ∧
        ∀ e, cut? (a :: p) (written e ps) = some (written e bs, written e qs) := by
  have hap : '@' ∉ a :: p := by
    rw [List.mem_cons, not_or]
    refine ⟨fun h => ha ?_, hp⟩
    rw [← h]
    decide
  induction ps with
  | nil => exact .inl fun _ => rfl
  | cons piece ps ih =>
    cases piece with
    | plain c =>
      rcases strip?_written hap (.plain c :: ps) with hs | ⟨qs, hq, hs⟩
      · rcases ih with hn | ⟨bs, qs, rfl, hc⟩
        · refine .inl fun e => ?_
          have hs := hs e
          rw [written] at hs ⊢
          rw [cut?, hs, hn e, Option.map_none]
        · refine .inr ⟨.plain c :: bs, qs, rfl, fun e => ?_⟩
          have hs := hs e
          rw [written] at hs ⊢
          rw [cut?, hs, hc e, Option.map_some, written]
      · refine .inr ⟨[], qs, hq, fun e => ?_⟩
        have hs := hs e
        rw [written] at hs ⊢
        rw [cut?, hs, written]
    | marked | reserved =>
      rcases ih with hn | ⟨bs, qs, rfl, hc⟩
      · refine .inl fun e => ?_
        rw [written, cut?_append_of_notMem (notMem_markText ha e), hn e, Option.map_none]
      · refine .inr ⟨_ :: bs, qs, rfl, fun e => ?_⟩
        rw [written, cut?_append_of_notMem (notMem_markText ha e), hc e, Option.map_some, written]

theorem cut?_some_written {a : Char} {p : List Char} (ha : a ∉ "@ANSIBLE~".toList) (hp : '@' ∉ p)
    {before rest : List Char} (h : cut? (a :: p) (written e ps) = some (before, rest)) :
    ∃ bs qs, bs <:+: ps ∧ qs <:+ ps ∧ before = written e bs ∧ rest = written e qs ∧
      ∀ e', cut? (a :: p) (written e' ps) = some (written e' bs, written e' qs) := by
  rcases cut?_written ha hp ps with hn | ⟨bs, qs, rfl, hc⟩
  · rw [hn] at h
    cases h
  · rw [hc] at h
    cases h
    have hb : bs <:+: bs ++ (a :: p).map .plain ++ qs := ⟨[], (a :: p).map .plain ++ qs, by simp⟩
    exact ⟨bs, qs, hb, List.suffix_append _ _, rfl, rfl, hc⟩

theorem cut?_none_written {a : Char} {p : List Char} (ha : a ∉ "@ANSIBLE~".toList) (hp : '@' ∉ p)
    (h : cut? (a :: p) (written e ps) = none) (e' : Bool) : cut? (a :: p) (written e' ps) = none := by
  rcases cut?_written ha hp ps with hn | ⟨bs, qs, -, hc⟩
  · exact hn e'
  · rw [hc] at h
    cases h

/-! ## Trimming -/

theorem trimsBefore_written (e : Bool) (ps : List Piece) :
    Template.trimsBefore (written e ps) = trimsPieces ps := by
  rw [written_eq_flatMap]
  exact (writes_written e).trimsBefore ps

theorem trimmed_written (front back : Bool) (e : Bool) (ps : List Piece) :
    trimmed front back (written e ps) = written e (trimmedPieces front back ps) := by
  rw [written_eq_flatMap, written_eq_flatMap]
  exact trimmed_pieces (writes_written e) (writes_written_reverse e) front back ps

end Rollout.Placeholder
