import Rollout.Proofs.Placeholder.Written

/-!
# What unmasking brings back

A text with escape marks comes back without them if and only if no other mask starts in it
(`unmaskChars_written_iff`).
-/

namespace Rollout.Placeholder

open Text

/-- The texts that start with something the mask makes. -/
inductive StartsMask : List Char → Prop where
  | escaped (rest : List Char) : StartsMask (sentinel ++ [escapeMark] ++ rest)
  | reserved {blanks : List Char} (hb : ∀ c ∈ blanks, isBlank c = true) (rest : List Char) :
    StartsMask (sentinel ++ blanks ++ ['.'] ++ rest)

theorem startsMask_of_reveal {s : List Char} {found : Replacement} (h : reveal s = some found) :
    StartsMask s := by
  simp only [reveal, Option.bind_eq_bind, Option.bind_eq_some_iff] at h
  obtain ⟨inner, hi, h⟩ := h
  rw [strip?_eq_some_iff.1 hi]
  split at h
  · rename_i rest hr
    rw [strip?_eq_some_iff.1 hr, ← List.append_assoc]
    exact .escaped rest
  · obtain ⟨rest, hr, -⟩ := Option.bind_eq_some_iff.1 h
    have hs := List.takeWhile_append_dropWhile (p := isBlank) (l := inner)
    rw [strip?_eq_some_iff.1 hr] at hs
    rw [← hs, ← List.append_assoc, ← List.append_assoc]
    exact .reserved (fun c hc => List.mem_takeWhile_imp hc) rest

theorem startsMask_written {c : Char} {e : Bool} {ps : List Piece} (h : StartsMask (c :: written e ps))
    (e' : Bool) : StartsMask (c :: written e' ps) := by
  generalize hs : c :: written e ps = s at h
  -- The at sign is the only one of the mask, so plain characters follow it up to the end of the mask.
  have rest {x r : List Char} (hx : '@' ∉ x) (he : c :: written e ps = '@' :: (x ++ r)) :
      ∃ r', c :: written e' ps = '@' :: (x ++ r') := by
    obtain ⟨rfl, hw⟩ := List.cons.inj he
    obtain ⟨qs, rfl, -⟩ := exists_of_written_eq hx hw
    exact ⟨written e' qs, by rw [written_append, written_plain]⟩
  cases h with
  | escaped r =>
    obtain ⟨r', hr⟩ := rest (x := "ANSIBLE~".toList) (by decide) hs
    rw [hr]
    exact .escaped r'
  | @reserved blanks hb r =>
    have hx : '@' ∉ "ANSIBLE".toList ++ blanks ++ ['.'] := by
      intro hm
      rw [List.mem_append, List.mem_append] at hm
      rcases hm with (hm | hm) | hm
      · exact absurd hm (by decide)
      · exact blank_ne (hb _ hm) rfl rfl
      · exact absurd hm (by decide)
    obtain ⟨r', hr⟩ := rest hx hs
    rw [hr]
    exact .reserved hb r'

theorem unmaskChars_mark (s : List Char) :
    unmaskChars (markText true ++ s) = sentinel ++ unmaskChars s :=
  replaceMatches_some (by decide) (reveal_marked s) rfl

theorem unmaskChars_of_not_startsMask {c : Char} {s : List Char} (h : ¬ StartsMask (c :: s)) :
    unmaskChars (c :: s) = c :: unmaskChars s := by
  refine replaceMatches_cons_none ?_
  cases hr : reveal (c :: s) with
  | none => rfl
  | some found => exact absurd (startsMask_of_reveal hr) h

theorem unmaskChars_of_startsMask {s : List Char} (h : StartsMask s) :
    ∃ c t, unmaskChars s = c :: t ∧ c ≠ escapeMark := by
  cases h with
  | escaped rest => exact ⟨'@', _, unmaskChars_mark rest, by decide⟩
  | @reserved blanks hb rest =>
    have hne : sentinel ++ blanks ++ ['.'] ≠ [] := by simp [sentinel_eq]
    exact ⟨'\x7b', _, replaceMatches_some hne (reveal_reserved hb rest) rfl, by decide⟩

theorem unmaskChars_written_ne (ps : List Piece) :
    unmaskChars (written true ps) ≠ escapeMark :: written false ps := by
  -- A first character that comes back as an escape mark is one, and the rest is in the same place.
  induction ps with
  | nil => nofun
  | cons piece ps ih =>
    intro h
    cases piece with
    | plain c =>
      by_cases hm : StartsMask (c :: written true ps)
      · obtain ⟨d, t, hu, hd⟩ := unmaskChars_of_startsMask hm
        rw [written, hu] at h
        exact hd (List.cons.inj h).1
      · rw [written, unmaskChars_of_not_startsMask hm] at h
        obtain ⟨rfl, hr⟩ := List.cons.inj h
        exact ih hr
    | marked | reserved =>
      simp only [written, unmaskChars_mark] at h
      cases h

theorem unmaskChars_ne_of_startsMask {c : Char} {ps : List Piece}
    (h : StartsMask (c :: written true ps)) :
    unmaskChars (c :: written true ps) ≠ c :: written false ps := by
  generalize hs : c :: written true ps = s at h
  cases h with
  | escaped rest =>
    obtain ⟨rfl, hw⟩ := List.cons.inj hs
    obtain ⟨qs, rfl, rfl⟩ := exists_of_written_eq (x := "ANSIBLE~".toList) (by decide) hw
    rw [written_append, written_plain]
    intro hu
    exact unmaskChars_written_ne qs (List.append_cancel_left ((unmaskChars_mark _).symm.trans hu))
  | @reserved blanks hb rest =>
    obtain ⟨rfl, -⟩ := List.cons.inj hs
    have hne : sentinel ++ blanks ++ ['.'] ≠ [] := by simp [sentinel_eq]
    intro hu
    have hc := (replaceMatches_some hne (reveal_reserved hb rest) rfl).symm.trans hu
    cases hc

/-- No mask starts at a plain character of a text in pieces. -/
def Apart (pieces : List Piece) : Prop :=
  ∀ before c behind, pieces = before ++ .plain c :: behind → ¬ StartsMask (c :: written false behind)

theorem apart_cons_plain {c : Char} {ps : List Piece} :
    Apart (.plain c :: ps) ↔ ¬ StartsMask (c :: written false ps) ∧ Apart ps := by
  constructor
  · intro h
    exact ⟨h [] c ps rfl, fun before d behind he => h (.plain c :: before) d behind (by rw [he]; rfl)⟩
  · rintro ⟨hc, hs⟩ before d behind he
    cases before with
    | nil =>
      cases he
      exact hc
    | cons piece before =>
      exact hs before d behind (List.cons.inj he).2

theorem apart_cons_mark {piece : Piece} (hp : ∀ c, piece ≠ .plain c) {ps : List Piece} :
    Apart (piece :: ps) ↔ Apart ps := by
  constructor
  · intro h before d behind he
    exact h (piece :: before) d behind (by rw [he]; rfl)
  · intro h before d behind he
    cases before with
    | nil =>
      cases he
      exact absurd rfl (hp d)
    | cons first before =>
      exact h before d behind (List.cons.inj he).2

theorem unmaskChars_written_iff (ps : List Piece) :
    unmaskChars (written true ps) = written false ps ↔ Apart ps := by
  induction ps with
  | nil => exact ⟨fun _ before d behind he => by simp at he, fun _ => rfl⟩
  | cons piece ps ih =>
    cases piece with
    | plain c =>
      rw [apart_cons_plain, ← ih, written, written]
      by_cases hm : StartsMask (c :: written true ps)
      · have hn := unmaskChars_ne_of_startsMask hm
        exact ⟨fun he => absurd he hn, fun h => absurd (startsMask_written hm false) h.1⟩
      · rw [unmaskChars_of_not_startsMask hm, List.cons.injEq]
        have hm' : ¬ StartsMask (c :: written false ps) := fun h => hm (startsMask_written h true)
        exact ⟨fun he => ⟨hm', he.2⟩, fun h => ⟨rfl, h.2⟩⟩
    | marked | reserved =>
      rw [apart_cons_mark (fun c h => by cases h), ← ih]
      simp only [written, unmaskChars_mark]
      exact List.append_cancel_left_eq _ _ _ |>.to_iff

end Rollout.Placeholder
