import Mathlib.Data.List.TakeWhile
import Mathlib.Data.List.DropRight
import Rollout.Text.Blank
import Rollout.Text.Search

/-!
# Matching and replacing

The answer of a search depends on the text up to the end of its match only, and a replacement goes
through a text part by part.
-/

namespace Rollout.Text

/-! ## Patterns -/

theorem strip?_append {p x : List Char} (h : p.length ≤ x.length) (r : List Char) :
    strip? p (x ++ r) = (strip? p x).map (· ++ r) := by
  induction p generalizing x with
  | nil => rfl
  | cons a p ih =>
    cases x with
    | nil => simp at h
    | cons c x =>
      have hl : p.length ≤ x.length := by simpa using h
      by_cases ha : a = c
      · simp only [List.cons_append, strip?, if_pos ha, ih hl]
      · simp only [List.cons_append, strip?, if_neg ha, Option.map_none]

theorem strip?_append_self (p r : List Char) : strip? p (p ++ r) = some r :=
  strip?_eq_some_iff.2 rfl

theorem strip?_eq_none_iff {p s : List Char} : strip? p s = none ↔ ¬ p <+: s := by
  rw [Option.eq_none_iff_forall_ne_some]
  constructor
  · rintro h ⟨r, rfl⟩
    exact h r (strip?_append_self p r)
  · intro h r hr
    exact h ⟨r, (strip?_eq_some_iff.1 hr).symm⟩

theorem strip?_none_of_append {p x : List Char} (h : p.length ≤ x.length) {r : List Char}
    (hn : strip? p (x ++ r) = none) (next : List Char) : strip? p (x ++ next) = none := by
  rw [strip?_append h, Option.map_eq_none_iff] at hn
  rw [strip?_append h, hn, Option.map_none]

/-- A pattern does not reach over a character that it does not have. -/
theorem strip?_append_cons {a : Char} {p : List Char} (h : a ∉ p) (x r : List Char) :
    strip? p (x ++ a :: r) = (strip? p x).map (· ++ a :: r) := by
  induction p generalizing x with
  | nil => rfl
  | cons b p ih =>
    rw [List.mem_cons, not_or] at h
    cases x with
    | nil => exact if_neg (Ne.symm h.1)
    | cons c x =>
      by_cases hc : b = c
      · simp only [List.cons_append, strip?, if_pos hc, ih h.2]
      · simp only [List.cons_append, strip?, if_neg hc, Option.map_none]

theorem cut?_append {p s before rest : List Char} (hp : p ≠ [])
    (h : cut? p s = some (before, rest)) (next : List Char) :
    cut? p (before ++ p ++ next) = some (before, next) := by
  induction s generalizing before with
  | nil => cases h
  | cons c s ih =>
    rw [cut?] at h
    cases hs : strip? p (c :: s) with
    | some r =>
      simp only [hs, Option.some.injEq, Prod.mk.injEq] at h
      obtain ⟨rfl, rfl⟩ := h
      obtain ⟨a, q, rfl⟩ := List.exists_cons_of_ne_nil hp
      have hm := strip?_append_self (a :: q) next
      rw [List.cons_append] at hm
      rw [List.nil_append, List.cons_append, cut?, hm]
    | none =>
      simp only [hs] at h
      obtain ⟨⟨b, r⟩, hb, he⟩ := Option.map_eq_some_iff.1 h
      simp only [Prod.mk.injEq] at he
      obtain ⟨rfl, rfl⟩ := he
      have hl : p.length ≤ (c :: (b ++ p)).length := by
        simp only [List.length_cons, List.length_append]
        omega
      rw [eq_of_cut? hb, ← List.cons_append] at hs
      have hn := strip?_none_of_append hl hs next
      rw [List.cons_append, List.cons_append, cut?, ← List.cons_append, hn, ih hb, Option.map_some]

theorem occurs_iff {p s : List Char} (hp : p ≠ []) : occurs p s = true ↔ p <:+: s := by
  unfold occurs
  constructor
  · intro h
    obtain ⟨⟨before, rest⟩, hc⟩ := Option.isSome_iff_exists.1 h
    exact ⟨before, rest, (eq_of_cut? hc).symm⟩
  · rintro ⟨before, rest, rfl⟩
    induction before with
    | nil =>
      obtain ⟨a, q, rfl⟩ := List.exists_cons_of_ne_nil hp
      have hs := strip?_append_self (a :: q) rest
      rw [List.cons_append] at hs
      rw [List.nil_append, List.cons_append, cut?, hs]
      rfl
    | cons c before ih =>
      rw [List.cons_append, List.cons_append, cut?]
      split
      · rfl
      · rwa [Option.isSome_map]

theorem contains_iff {s part : String} (h : part ≠ "") :
    contains s part = true ↔ part.toList <:+: s.toList := by
  have hp : part.isEmpty = false := by simpa using h
  rw [contains, hp, Bool.false_or, occurs_iff (mt String.toList_eq_nil_iff.1 h)]

theorem cut?_eq_none_iff {p s : List Char} (hp : p ≠ []) : cut? p s = none ↔ ¬ p <:+: s := by
  rw [← occurs_iff hp, occurs, Bool.not_eq_true, Option.isSome_eq_false_iff, Option.isNone_iff_eq_none]

/-- A pattern is found where it stands if it occurs no earlier. -/
theorem cut?_append_of_notMem {a : Char} {p x : List Char} (h : a ∉ x) (s : List Char) :
    cut? (a :: p) (x ++ s) = (cut? (a :: p) s).map fun r => (x ++ r.1, r.2) := by
  induction x with
  | nil => simp
  | cons c x ih =>
    rw [List.mem_cons, not_or] at h
    have hs : strip? (a :: p) (c :: (x ++ s)) = none := by rw [strip?, if_neg h.1]
    rw [List.cons_append, cut?, hs, ih h.2, Option.map_map]
    rfl

theorem concat_suffix_concat_iff {a b : Char} {p s : List Char} :
    p ++ [a] <:+ s ++ [b] ↔ p <:+ s ∧ a = b := by
  rw [← List.reverse_prefix, List.reverse_append, List.reverse_append, List.reverse_singleton,
    List.reverse_singleton, List.singleton_append, List.singleton_append, List.cons_prefix_cons,
    List.reverse_prefix, and_comm]

theorem infix_concat_iff_of_ne {a b : Char} (h : a ≠ b) {p s : List Char} :
    p ++ [a] <:+: s ++ [b] ↔ p ++ [a] <:+: s := by
  rw [List.infix_concat_iff, concat_suffix_concat_iff]
  simp [h]

theorem infix_append_iff_of_notMem {a : Char} {q x y : List Char} (h : a ∉ y) :
    q ++ [a] <:+: x ++ y ↔ q ++ [a] <:+: x := by
  induction y using List.reverseRecOn with
  | nil => rw [List.append_nil]
  | append_singleton y b ih =>
    rw [List.mem_append, not_or, List.mem_singleton] at h
    rw [← List.append_assoc, infix_concat_iff_of_ne h.2, ih h.1]

/-! ## Replacing -/

section

variable {rule : List Char → Option Replacement}

theorem replaceMatches_cons_none {c : Char} {s : List Char} (h : rule (c :: s) = none) :
    replaceMatches rule (c :: s) = c :: replaceMatches rule s := by
  rw [replaceMatches, replaceMatchesFrom, h, replaceMatches]

theorem replaceMatches_some {x s : List Char} {found : Replacement} (hx : x ≠ [])
    (h : rule (x ++ s) = some found) (hl : found.taken = x.length) :
    replaceMatches rule (x ++ s) = found.text ++ replaceMatches rule s := by
  obtain ⟨c, x, rfl⟩ := List.exists_cons_of_ne_nil hx
  rw [List.cons_append] at h ⊢
  rw [replaceMatches, replaceMatchesFrom, h]
  simp [replaceMatchesFrom_eq, hl]

/-- A rule goes past a text in which it can start nowhere. -/
theorem replaceMatches_append {x : List Char} (h : ∀ c ∈ x, ∀ t, rule (c :: t) = none)
    (s : List Char) : replaceMatches rule (x ++ s) = x ++ replaceMatches rule s := by
  induction x with
  | nil => rfl
  | cons c x ih =>
    have hx := ih fun d hd => h d (List.mem_cons_of_mem c hd)
    rw [List.cons_append, replaceMatches_cons_none (h c List.mem_cons_self _), hx, List.cons_append]

end

theorem replaceAll_of_cut? {p s before rest : List Char} (hp : p ≠ [])
    (h : cut? p s = some (before, rest)) (r : List Char) :
    replaceAll p r s = before ++ r ++ replaceAll p r rest := by
  induction s generalizing before with
  | nil => cases h
  | cons c s ih =>
    rw [cut?] at h
    cases hs : strip? p (c :: s) with
    | some t =>
      simp only [hs, Option.some.injEq, Prod.mk.injEq] at h
      obtain ⟨rfl, rfl⟩ := h
      rw [strip?_eq_some_iff.1 hs]
      have found : (strip? p (p ++ t)).map (fun _ => (⟨p.length, r⟩ : Replacement)) =
          some ⟨p.length, r⟩ := by
        rw [strip?_append_self, Option.map_some]
      have taken : (⟨p.length, r⟩ : Replacement).taken = p.length := rfl
      exact replaceMatches_some hp found taken
    | none =>
      simp only [hs] at h
      obtain ⟨⟨b, t⟩, hb, he⟩ := Option.map_eq_some_iff.1 h
      cases he
      rw [replaceAll, replaceMatches_cons_none (by rw [hs]; rfl)]
      exact congrArg (c :: ·) (ih hb)

theorem replaceAll_of_cut?_none {p s : List Char} (h : cut? p s = none) (r : List Char) :
    replaceAll p r s = s := by
  induction s with
  | nil => rfl
  | cons c s ih =>
    rw [cut?] at h
    cases hs : strip? p (c :: s) with
    | some t => simp [hs] at h
    | none =>
      simp only [hs, Option.map_eq_none_iff] at h
      rw [replaceAll, replaceMatches_cons_none (by rw [hs]; rfl)]
      exact congrArg (c :: ·) (ih h)

/-! ## Cutting at a character -/

theorem exists_of_append_eq {a : Char} {x r before t : List Char} (hx : a ∉ x)
    (h : x ++ r = before ++ a :: t) : ∃ before', before = x ++ before' ∧ r = before' ++ a :: t := by
  induction x generalizing before with
  | nil => exact ⟨before, rfl, h⟩
  | cons c x ih =>
    rw [List.mem_cons, not_or] at hx
    cases before with
    | nil =>
      rw [List.cons_append, List.nil_append, List.cons.injEq] at h
      exact absurd h.1.symm hx.1
    | cons d before =>
      simp only [List.cons_append, List.cons.injEq] at h
      obtain ⟨rfl, h⟩ := h
      obtain ⟨before', rfl, hr⟩ := ih hx.2 h
      exact ⟨before', rfl, hr⟩

theorem takeWhile_append_of_all {p : Char → Bool} {w next : List Char} (hw : ∀ c ∈ w, p c = true)
    (hn : ∀ c ∈ next.head?, p c = false) :
    (w ++ next).takeWhile p = w ∧ (w ++ next).dropWhile p = next := by
  rw [List.takeWhile_append_of_pos hw, List.dropWhile_append_of_pos hw]
  cases next with
  | nil => simp
  | cons c next =>
    have hc : p c = false := hn c rfl
    simp [hc]

/-! ## Blanks -/

theorem blank_ne {c d : Char} (h : isBlank c = true) (hd : isBlank d = false) : c ≠ d := by
  rintro rfl
  rw [h] at hd
  cases hd

theorem notMem_of_isBlank {s : List Char} (h : ∀ c ∈ s, isBlank c = true) {a : Char}
    (ha : isBlank a = false) : a ∉ s :=
  fun hm => blank_ne (h a hm) ha rfl

section

variable {s t : List Char}

theorem trimStart_append (h : ¬ ∀ c ∈ s, isBlank c = true) : trimStart (s ++ t) = trimStart s ++ t := by
  rw [trimStart, List.dropWhile_append, if_neg]
  · rfl
  · rwa [List.isEmpty_iff, List.dropWhile_eq_nil_iff]

theorem trimEnd_append (h : ¬ ∀ c ∈ t, isBlank c = true) : trimEnd (s ++ t) = s ++ trimEnd t := by
  have hr : ¬ ∀ c ∈ t.reverse, isBlank c = true := by simpa using h
  have ht := trimStart_append (t := s.reverse) hr
  rw [trimStart, trimStart] at ht
  rw [trimEnd, List.reverse_append, ht, List.reverse_append, List.reverse_reverse, trimEnd]

end

end Rollout.Text
