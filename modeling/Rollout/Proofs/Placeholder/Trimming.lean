import Rollout.Proofs.Placeholder.Pieces
import Rollout.Proofs.Template.Reading

/-!
# Trimming pieces

What is trimmed off a text are whole pieces of it, whichever way the pieces are written: only a plain
piece can be a blank, and no other has a blank or a minus sign at its ends.
-/

namespace Rollout.Placeholder

open Text Template

variable {pieces : List Piece}

def Piece.isBlank : Piece → Bool
  | .plain c => Text.isBlank c
  | _ => false

theorem Piece.plain_or (piece : Piece) :
    (∃ c, piece = .plain c) ∨ (∀ c, piece ≠ .plain c) ∧ piece.isBlank = false := by
  cases piece with
  | plain c => exact .inl ⟨c, rfl⟩
  | marked | reserved => exact .inr ⟨nofun, rfl⟩

def trimmedPieces (front back : Bool) (pieces : List Piece) : List Piece :=
  let pieces := if front then pieces.dropWhile Piece.isBlank else pieces
  if back then pieces.rdropWhile Piece.isBlank else pieces

theorem trimmedPieces_isInfix (front back : Bool) (pieces : List Piece) :
    trimmedPieces front back pieces <:+: pieces := by
  have hd : pieces.dropWhile Piece.isBlank <:+: pieces := (List.dropWhile_suffix _).isInfix
  have hr (ps : List Piece) : ps.rdropWhile Piece.isBlank <:+: ps := (List.rdropWhile_prefix _ _).isInfix
  cases front <;> cases back
  · exact List.infix_refl pieces
  · exact hr pieces
  · exact hd
  · exact (hr _).trans hd

/-- A way to write pieces in which only a plain piece starts like something that is trimmed. -/
structure Writes (g : Piece → List Char) : Prop where
  plain (c : Char) : g (.plain c) = [c]
  other {piece : Piece} : (∀ c, piece ≠ .plain c) →
    ∃ c s, g piece = c :: s ∧ Text.isBlank c = false ∧ c ≠ '-'

theorem writes_source : Writes Piece.source := by
  refine ⟨fun _ => rfl, fun {piece} h => ?_⟩
  cases piece with
  | plain c => exact absurd rfl (h c)
  | marked | reserved => exact ⟨_, _, rfl, rfl, by decide⟩

theorem writes_masked : Writes Piece.masked := by
  refine ⟨fun _ => rfl, fun {piece} h => ?_⟩
  cases piece with
  | plain c => exact absurd rfl (h c)
  | marked | reserved => exact ⟨_, _, rfl, rfl, by decide⟩

theorem writes_source_reverse : Writes (List.reverse ∘ Piece.source) := by
  refine ⟨fun _ => rfl, fun {piece} h => ?_⟩
  cases piece with
  | plain c => exact absurd rfl (h c)
  | marked => exact ⟨_, _, rfl, rfl, by decide⟩
  | reserved blanks =>
    rw [Function.comp, Piece.source, List.reverse_append]
    exact ⟨_, _, rfl, rfl, by decide⟩

theorem writes_masked_reverse : Writes (List.reverse ∘ Piece.masked) := by
  refine ⟨fun _ => rfl, fun {piece} h => ?_⟩
  cases piece with
  | plain c => exact absurd rfl (h c)
  | marked => exact ⟨_, _, rfl, rfl, by decide⟩
  | reserved blanks =>
    rw [Function.comp, Piece.masked, List.reverse_append]
    exact ⟨_, _, rfl, rfl, by decide⟩

theorem Writes.trimStart {g : Piece → List Char} (hg : Writes g) (pieces : List Piece) :
    Text.trimStart (pieces.flatMap g) = (pieces.dropWhile Piece.isBlank).flatMap g := by
  unfold Text.trimStart
  induction pieces with
  | nil => rfl
  | cons piece pieces ih =>
    rw [List.flatMap_cons]
    rcases piece.plain_or with ⟨c, rfl⟩ | ⟨hp, hb⟩
    · rw [hg.plain, List.singleton_append, List.dropWhile_cons, List.dropWhile_cons, Piece.isBlank]
      split
      · exact ih
      · rw [List.flatMap_cons, hg.plain, List.singleton_append]
    · obtain ⟨c, s, he, hc, -⟩ := hg.other hp
      rw [List.dropWhile_cons_of_neg (by simp [hb]), List.flatMap_cons, he, List.cons_append,
        List.dropWhile_cons_of_neg (by simp [hc])]

theorem Writes.trimEnd {g : Piece → List Char} (hg : Writes (List.reverse ∘ g)) (pieces : List Piece) :
    Text.trimEnd (pieces.flatMap g) = (pieces.rdropWhile Piece.isBlank).flatMap g := by
  have ht := hg.trimStart pieces.reverse
  rw [← List.reverse_flatMap, Text.trimStart] at ht
  rw [Text.trimEnd, ht, List.rdropWhile, List.flatMap_reverse]

theorem trimmed_pieces {g : Piece → List Char} (hg : Writes g) (hr : Writes (List.reverse ∘ g))
    (front back : Bool) (pieces : List Piece) :
    trimmed front back (pieces.flatMap g) = (trimmedPieces front back pieces).flatMap g := by
  cases front <;> cases back <;> simp only [trimmed, trimmedPieces, Bool.false_eq_true, if_true, if_false]
  · exact hr.trimEnd pieces
  · exact hg.trimStart pieces
  · rw [hg.trimStart, hr.trimEnd]

/-! ## Marks that trim -/

def trimsPieces : List Piece → Bool
  | .plain '-' :: piece :: _ => piece.isBlank
  | _ => false

theorem trimsBefore_of_ne {c : Char} (h : c ≠ '-') (s : List Char) : trimsBefore (c :: s) = false := by
  unfold trimsBefore
  split
  · rename_i he
    exact absurd (List.cons.inj he).1 h
  · rfl

theorem trimsPieces_of_ne {piece : Piece} (h : piece ≠ .plain '-') (ps : List Piece) :
    trimsPieces (piece :: ps) = false := by
  unfold trimsPieces
  split
  · rename_i he
    exact absurd (List.cons.inj he).1 h
  · rfl

theorem Writes.trimsBefore {g : Piece → List Char} (hg : Writes g) (pieces : List Piece) :
    Template.trimsBefore (pieces.flatMap g) = trimsPieces pieces := by
  cases pieces with
  | nil => rfl
  | cons piece pieces =>
    rw [List.flatMap_cons]
    rcases piece.plain_or with ⟨c, rfl⟩ | ⟨hp, -⟩
    · rw [hg.plain, List.singleton_append]
      by_cases hm : c = '-'
      · subst hm
        cases pieces with
        | nil => rfl
        | cons piece pieces =>
          rw [List.flatMap_cons]
          rcases piece.plain_or with ⟨c, rfl⟩ | ⟨hp, hb⟩
          · rw [hg.plain]
            rfl
          · obtain ⟨d, s, he, hd, -⟩ := hg.other hp
            rw [he]
            exact hd.trans hb.symm
      · rw [trimsBefore_of_ne hm, trimsPieces_of_ne fun he => hm (Piece.plain.inj he)]
    · obtain ⟨d, s, he, -, hd⟩ := hg.other hp
      rw [he, List.cons_append, trimsBefore_of_ne hd, trimsPieces_of_ne (hp '-')]

end Rollout.Placeholder
