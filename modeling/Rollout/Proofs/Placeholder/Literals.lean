import Rollout.Proofs.Placeholder.Escaped
import Rollout.Proofs.Template.Format
import Rollout.Proofs.Template.Printing

/-!
# Sentinels in literals

A literal with a sentinel is read with an escape mark in it. The functions that write their arguments
out write the mark behind the sentinel and change nothing else.
-/

namespace Rollout.Placeholder

open Text Template

def holdsSentinel : Operand → Bool
  | .text s => occurs sentinel s.toList
  | _ => false

theorem written_eq_of_notInfix {e : Bool} {ps : List Piece}
    (h : ¬ sentinel <:+: written e ps) (e' : Bool) : written e' ps = written e ps := by
  induction ps with
  | nil => rfl
  | cons piece ps ih =>
    cases piece with
    | plain c =>
      have hs : ¬ sentinel <:+: written e ps := fun hs => h (hs.trans (List.suffix_cons _ _).isInfix)
      exact congrArg (c :: ·) (ih hs)
    | marked | reserved =>
      refine absurd (List.IsPrefix.isInfix ?_) h
      cases e
      · exact List.prefix_append _ _
      · exact (List.prefix_append _ _).trans (List.prefix_append _ _)

theorem formatted_percent_mark (e : Bool) (s : List Char) (args : List Json) :
    formatted ('%' :: (markText e ++ s)) args = '%' :: (markText e ++ formatted s args) := by
  obtain ⟨t, ht⟩ := markText_eq_cons e
  have hm : '%' ∉ t := by
    intro hm
    have hn := notMem_markText (a := '%') (by decide) e
    rw [ht] at hn
    exact hn (List.mem_cons_of_mem _ hm)
  rw [ht, List.cons_append, formatted_verb, if_neg (by decide), if_neg (by decide),
    formatted_append hm, List.cons_append]

theorem formatted_cons {e : Bool} {piece : Piece} (h : piece ≠ .plain '%') (rest : List Piece)
    (args : List Json) :
    formatted (written e (piece :: rest)) args =
      written e [piece] ++ formatted (written e rest) args := by
  have hp : '%' ∉ written e [piece] := by
    cases piece with
    | plain c => exact fun hm => h (congrArg Piece.plain (List.mem_singleton.1 hm).symm)
    | marked | reserved =>
      simp only [written, List.append_nil]
      exact notMem_markText (by decide) e
  rw [← formatted_append hp, ← written_append, List.singleton_append]

theorem formatted_written {e e' : Bool} (cs : List Piece) {args args' : List Json}
    (h : List.Forall₂ (ValuesAlike (Rewritten e e')) args args') :
    ∃ ds, formatted (written e cs) args = written e ds ∧
      formatted (written e' cs) args' = written e' ds := by
  induction hn : cs.length using Nat.strongRecOn generalizing cs args args' with
  | ind n ih =>
    subst hn
    match cs with
    | [] => exact ⟨[], rfl, rfl⟩
    | piece :: rest =>
      by_cases hp : piece = .plain '%'
      · subst hp
        match rest with
        | [] => exact ⟨[.plain '%'], rfl, rfl⟩
        | next :: rest =>
          have lt : rest.length < (Piece.plain '%' :: next :: rest).length := by
            simp only [List.length_cons]
            omega
          cases next with
          -- The at sign of the sentinel is no verb: the percent sign is written as it stands.
          | marked | reserved =>
            obtain ⟨ds, hd, hd'⟩ := ih rest.length lt rest h rfl
            refine ⟨.plain '%' :: .marked :: ds, ?_, ?_⟩
            · simp only [written, formatted_percent_mark, hd]
            · simp only [written, formatted_percent_mark, hd']
          | plain c =>
            simp only [written, formatted_verb]
            by_cases hc : c = '%'
            · obtain ⟨ds, hd, hd'⟩ := ih rest.length lt rest h rfl
              simp only [if_pos hc, hd, hd']
              exact ⟨.plain '%' :: ds, rfl, rfl⟩
            simp only [if_neg hc]
            by_cases hv : isVerb c = true
            · simp only [if_pos hv]
              cases h with
              | nil =>
                obtain ⟨ds, hd, hd'⟩ := ih rest.length lt rest .nil rfl
                let missing := "%!".toList ++ c :: "(MISSING)".toList
                refine ⟨missing.map .plain ++ ds, ?_, ?_⟩
                · rw [hd, written_append, written_plain]
                · rw [hd', written_append, written_plain]
              | cons ha hs =>
                obtain ⟨ds, hd, hd'⟩ := ih rest.length lt rest hs rfl
                obtain ⟨cs, hc, hc'⟩ := ha.render (Rewritten.refl e e')
                refine ⟨cs ++ ds, ?_, ?_⟩
                · simp only [hd, written_append, hc]
                · simp only [hd', written_append, hc']
            · obtain ⟨ds, hd, hd'⟩ := ih rest.length lt rest h rfl
              simp only [if_neg hv, hd, hd']
              exact ⟨.plain '%' :: .plain c :: ds, rfl, rfl⟩
      · obtain ⟨ds, hd, hd'⟩ := ih rest.length (by simp) rest h rfl
        refine ⟨piece :: ds, ?_, ?_⟩
        · rw [formatted_cons hp, hd, ← written_append, List.singleton_append]
        · rw [formatted_cons hp, hd', ← written_append, List.singleton_append]

theorem printable_rewritten (e e' : Bool) : Printable holdsSentinel (Rewritten e e') := by
  refine ⟨?_, Rewritten.refl e e', ?_, ?_⟩
  · rintro s t ⟨cs, hs, ht⟩ hn
    have hi : ¬ sentinel <:+: written e cs := by
      intro hi
      rw [← hs, ← occurs_iff (by decide)] at hi
      exact nomatch hn.symm.trans hi
    rw [← String.toList_inj, hs, ht, written_eq_of_notInfix hi e']
  · rintro s t s' t' ⟨cs, hs, ht⟩ ⟨cs', hs', ht'⟩
    refine ⟨cs ++ cs', ?_, ?_⟩
    · rw [String.toList_append, written_append, hs, hs']
    · rw [String.toList_append, written_append, ht, ht']
  · rintro s t args args' ⟨cs, hs, ht⟩ ha
    obtain ⟨ds, hd, hd'⟩ := formatted_written cs ha
    rw [hs, ht, hd, hd']
    exact ⟨ds, String.toList_ofList, String.toList_ofList⟩

end Rollout.Placeholder
