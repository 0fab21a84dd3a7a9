import Rollout.Placeholder
import Rollout.Proofs.Text.Matching

/-!
# Pieces of a masked text

A text is a row of characters, of sentinels that were there before, and of openings that are meant
for the backend. The mask changes the last two, each into a piece of its own that no other piece can
be taken for: so it is undone by one pass (`unmaskChars_maskChars`), and no opening is left behind it.
-/

namespace Rollout.Placeholder

open Text

theorem sentinel_eq : sentinel = ['@', 'A', 'N', 'S', 'I', 'B', 'L', 'E'] :=
  rfl

theorem opening_eq : opening = ['\x7b', '\x7b'] :=
  rfl

/-- The texts that start with an opening of the backend. -/
def StartsOpening (s : List Char) : Prop :=
  ∃ blanks rest, (∀ c ∈ blanks, isBlank c = true) ∧ s = opening ++ blanks ++ namespaceMark ++ rest

theorem StartsOpening.append {s : List Char} (h : StartsOpening s) (r : List Char) :
    StartsOpening (s ++ r) := by
  obtain ⟨blanks, rest, hb, rfl⟩ := h
  exact ⟨blanks, rest ++ r, hb, List.append_assoc _ _ _⟩

inductive Piece where
  | plain (c : Char)
  | marked
  | reserved (blanks : List Char)

namespace Piece

def source : Piece → List Char
  | .plain c => [c]
  | .marked => sentinel
  | .reserved blanks => opening ++ blanks ++ namespaceMark

def escaped : Piece → List Char
  | .marked => sentinel ++ [escapeMark]
  | piece => piece.source

def masked : Piece → List Char
  | .reserved blanks => sentinel ++ blanks ++ ['.']
  | piece => piece.escaped

end Piece

/-- A text cut into the pieces that the mask sees in it. -/
inductive Cut : List Char → List Piece → Prop where
  | nil : Cut [] []
  | marked {s pieces} : Cut s pieces → Cut (sentinel ++ s) (.marked :: pieces)
  | reserved {blanks s pieces} : (∀ c ∈ blanks, isBlank c = true) → Cut s pieces →
      Cut (opening ++ blanks ++ namespaceMark ++ s) (.reserved blanks :: pieces)
  | plain {c s pieces} : ¬ sentinel <+: c :: s → ¬ StartsOpening (c :: s) → Cut s pieces →
      Cut (c :: s) (.plain c :: pieces)

theorem exists_cut (s : List Char) : ∃ pieces, Cut s pieces := by
  induction hn : s.length using Nat.strongRecOn generalizing s with
  | ind n ih =>
    by_cases hs : sentinel <+: s
    · obtain ⟨r, rfl⟩ := hs
      obtain ⟨pieces, hr⟩ := ih r.length (by simp [← hn, sentinel_eq]; omega) r rfl
      exact ⟨_, .marked hr⟩
    by_cases ho : StartsOpening s
    · obtain ⟨blanks, r, hb, rfl⟩ := ho
      obtain ⟨pieces, hr⟩ := ih r.length (by simp [← hn, opening_eq]; omega) r rfl
      exact ⟨_, .reserved hb hr⟩
    cases s with
    | nil => exact ⟨[], .nil⟩
    | cons c s =>
      obtain ⟨pieces, hr⟩ := ih s.length (by simp [← hn]) s rfl
      exact ⟨_, .plain hs ho hr⟩

theorem Cut.source {s : List Char} {pieces : List Piece} (h : Cut s pieces) :
    pieces.flatMap Piece.source = s := by
  induction h with
  | nil => rfl
  | marked _ ih | reserved _ _ ih | plain _ _ _ ih => rw [List.flatMap_cons, ih]; rfl

theorem Cut.append {s : List Char} {ps qs : List Piece} (h : Cut s (ps ++ qs)) :
    Cut (ps.flatMap Piece.source) ps ∧ Cut (qs.flatMap Piece.source) qs := by
  induction ps generalizing s with
  | nil => exact ⟨.nil, h.source ▸ h⟩
  | cons piece ps ih =>
    cases h with
    | marked h => exact ⟨.marked (ih h).1, (ih h).2⟩
    | reserved hb h => exact ⟨.reserved hb (ih h).1, (ih h).2⟩
    | @plain c s _ hn ho h =>
      have hs : s = ps.flatMap Piece.source ++ qs.flatMap Piece.source := by
        rw [← List.flatMap_append]
        exact h.source.symm
      rw [hs, ← List.cons_append] at hn ho
      have hn' : ¬ sentinel <+: c :: ps.flatMap Piece.source :=
        fun hp => hn (hp.trans (List.prefix_append _ _))
      have ho' : ¬ StartsOpening (c :: ps.flatMap Piece.source) := fun hp => ho (hp.append _)
      exact ⟨.plain hn' ho' (ih h).1, (ih h).2⟩

/-! ## The rules at the start of a text -/

theorem opening_ne_at {c : Char} (h : c ∈ opening) : c ≠ '@' := by
  rintro rfl
  exact absurd h (by decide)

theorem namespaceMark_ne_at {c : Char} (h : c ∈ namespaceMark) : c ≠ '@' := by
  rintro rfl
  exact absurd h (by decide)

theorem reserved_ne_at {blanks : List Char} (hb : ∀ c ∈ blanks, isBlank c = true) :
    ∀ c ∈ opening ++ blanks ++ namespaceMark, c ≠ '@' := by
  intro c hc
  rw [List.mem_append, List.mem_append] at hc
  rcases hc with (hc | hc) | hc
  · exact opening_ne_at hc
  · exact blank_ne (hb c hc) rfl
  · exact namespaceMark_ne_at hc

theorem strip?_sentinel_none {c : Char} (h : c ≠ '@') (s : List Char) :
    strip? sentinel (c :: s) = none := by
  rw [sentinel_eq, strip?, if_neg h.symm]

theorem hide_reserved {blanks : List Char} (hb : ∀ c ∈ blanks, isBlank c = true) (s : List Char) :
    hide (opening ++ blanks ++ namespaceMark ++ s) =
      some ⟨(opening ++ blanks ++ namespaceMark).length, sentinel ++ blanks ++ ['.']⟩ := by
  have hn : ∀ c ∈ (namespaceMark ++ s).head?, isBlank c = false := by
    intro c hc
    cases hc
    rfl
  obtain ⟨ht, hd⟩ := takeWhile_append_of_all hb hn
  rw [hide, List.append_assoc, List.append_assoc, strip?_append_self]
  simp only [Option.bind_eq_bind, Option.bind_some, ht, hd, strip?_append_self, List.length_append]

theorem startsOpening_of_hide {s : List Char} {found : Replacement} (h : hide s = some found) :
    StartsOpening s := by
  simp only [hide, Option.bind_eq_bind, Option.bind_eq_some_iff] at h
  obtain ⟨inner, hi, rest, hr, -⟩ := h
  refine ⟨inner.takeWhile isBlank, rest, fun c hc => List.mem_takeWhile_imp hc, ?_⟩
  have hs := List.takeWhile_append_dropWhile (p := isBlank) (l := inner)
  rw [strip?_eq_some_iff.1 hr] at hs
  rw [strip?_eq_some_iff.1 hi, List.append_assoc, List.append_assoc, hs]

theorem hide_none {c : Char} (h : c ≠ '\x7b') (s : List Char) : hide (c :: s) = none := by
  rw [hide, opening_eq, strip?, if_neg h.symm]
  rfl

theorem reveal_marked (s : List Char) :
    reveal (sentinel ++ [escapeMark] ++ s) =
      some ⟨(sentinel ++ [escapeMark]).length, sentinel⟩ := by
  rw [reveal, List.append_assoc, strip?_append_self]
  simp only [Option.bind_eq_bind, Option.bind_some, strip?_append_self, List.length_append]
  rfl

theorem reveal_reserved {blanks : List Char} (hb : ∀ c ∈ blanks, isBlank c = true) (s : List Char) :
    reveal (sentinel ++ blanks ++ ['.'] ++ s) =
      some ⟨(sentinel ++ blanks ++ ['.']).length, opening ++ blanks ++ namespaceMark⟩ := by
  have hm : strip? [escapeMark] (blanks ++ ['.'] ++ s) = none := by
    cases blanks with
    | nil => rfl
    | cons b blanks =>
      have hne : escapeMark ≠ b := (blank_ne (hb b List.mem_cons_self) rfl).symm
      simp only [List.cons_append, strip?, if_neg hne]
  have hn : ∀ c ∈ (['.'] ++ s).head?, isBlank c = false := by
    intro c hc
    cases hc
    rfl
  obtain ⟨ht, hd⟩ := takeWhile_append_of_all hb hn
  rw [reveal, List.append_assoc, List.append_assoc, strip?_append_self]
  rw [List.append_assoc] at hm
  simp only [Option.bind_eq_bind, Option.bind_some, hm, ht, hd, strip?_append_self,
    List.length_append, List.length_singleton]

theorem prefix_of_reveal {s : List Char} {found : Replacement} (h : reveal s = some found) :
    sentinel <+: s := by
  simp only [reveal, Option.bind_eq_bind, Option.bind_eq_some_iff] at h
  obtain ⟨rest, hr, -⟩ := h
  exact ⟨rest, (strip?_eq_some_iff.1 hr).symm⟩

theorem reveal_none {c : Char} (h : c ≠ '@') (s : List Char) : reveal (c :: s) = none := by
  rw [reveal, strip?_sentinel_none h]
  rfl

/-! ## Texts without an at sign -/

/-- A change of pieces that leaves them alone or puts an at sign in front. -/
def Marking (f : Piece → List Char) : Prop :=
  ∀ piece, f piece = piece.source ∨ ∃ t, f piece = '@' :: t

theorem marking_escaped : Marking Piece.escaped := by
  intro piece
  cases piece with
  | plain c => exact .inl rfl
  | marked => exact .inr ⟨_, rfl⟩
  | reserved blanks => exact .inl rfl

theorem marking_masked : Marking Piece.masked := by
  intro piece
  cases piece with
  | plain c => exact .inl rfl
  | marked => exact .inr ⟨_, rfl⟩
  | reserved blanks => exact .inr ⟨_, rfl⟩

/-- What a marked text starts with is there before, if it has no at sign. -/
theorem Marking.source_starts {f : Piece → List Char} (hf : Marking f) {pieces : List Piece}
    {x y : List Char} (h : pieces.flatMap f = x ++ y) (hx : '@' ∉ x) :
    ∃ y', pieces.flatMap Piece.source = x ++ y' := by
  induction pieces generalizing x with
  | nil =>
    have hxy : [] = x ++ y := h
    exact ⟨y, hxy⟩
  | cons piece pieces ih =>
    rw [List.flatMap_cons] at h
    rcases hf piece with he | ⟨t, he⟩
    · rw [he] at h
      rcases List.append_eq_append_iff.1 h with ⟨x', rfl, hr⟩ | ⟨y', hs, -⟩
      · obtain ⟨y', hy⟩ := ih hr fun hm => hx (List.mem_append_right _ hm)
        exact ⟨y', by rw [List.flatMap_cons, hy, List.append_assoc]⟩
      · exact ⟨y' ++ pieces.flatMap Piece.source, by rw [List.flatMap_cons, hs, List.append_assoc]⟩
    · cases x with
      | nil => exact ⟨_, rfl⟩
      | cons a x =>
        rw [he, List.cons_append, List.cons_append, List.cons.injEq] at h
        exact absurd (h.1 ▸ List.mem_cons_self) hx

theorem Marking.startsOpening {f : Piece → List Char} (hf : Marking f) {c : Char}
    {pieces : List Piece} (h : StartsOpening (c :: pieces.flatMap f)) :
    StartsOpening (c :: pieces.flatMap Piece.source) := by
  obtain ⟨blanks, rest, hb, hs⟩ := h
  have hne := reserved_ne_at hb
  rw [opening_eq, List.cons_append, List.cons_append, List.cons_append, List.cons.injEq] at hs
  obtain ⟨rfl, hs⟩ := hs
  have hx : '@' ∉ ['\x7b'] ++ blanks ++ namespaceMark := fun hm => hne _ (List.mem_cons_of_mem _ hm) rfl
  obtain ⟨rest', hr⟩ := hf.source_starts hs hx
  exact ⟨blanks, rest', hb, by rw [hr]; rfl⟩

/-! ## The mask and its inverse -/

theorem Cut.escape {s : List Char} {pieces : List Piece} (h : Cut s pieces) :
    escape s = pieces.flatMap Piece.escaped := by
  unfold Placeholder.escape replaceAll
  induction h with
  | nil => rfl
  | marked _ ih =>
    rw [replaceMatches_some (by simp [sentinel_eq]) (by rw [strip?_append_self, Option.map_some]) rfl,
      ih]
    rfl
  | reserved hb _ ih =>
    rw [replaceMatches_append, ih]
    · rfl
    · intro c hc t
      rw [strip?_sentinel_none (reserved_ne_at hb c hc), Option.map_none]
  | plain hs _ _ ih =>
    rw [replaceMatches_cons_none, ih]
    · rfl
    · rw [strip?_eq_none_iff.2 hs, Option.map_none]

theorem Cut.hide {s : List Char} {pieces : List Piece} (h : Cut s pieces) :
    replaceMatches hide (pieces.flatMap Piece.escaped) = pieces.flatMap Piece.masked := by
  induction h with
  | nil => rfl
  | marked _ ih =>
    rw [List.flatMap_cons, replaceMatches_append, ih]
    · rfl
    · intro c hc
      apply hide_none
      rintro rfl
      exact absurd hc (by decide)
  | reserved hb _ ih =>
    rw [List.flatMap_cons]
    simp only [Piece.escaped, Piece.source]
    rw [replaceMatches_some (by simp [opening_eq]) (hide_reserved hb _) rfl, ih]
    rfl
  | plain _ ho hc ih =>
    rw [List.flatMap_cons]
    simp only [Piece.escaped, Piece.source, List.singleton_append]
    rw [replaceMatches_cons_none, ih]
    · rfl
    · cases hh : Placeholder.hide _ with
      | none => rfl
      | some found =>
        have hs := marking_escaped.startsOpening (startsOpening_of_hide hh)
        rw [hc.source] at hs
        exact absurd hs ho

theorem Cut.mask {s : List Char} {pieces : List Piece} (h : Cut s pieces) :
    maskChars s = pieces.flatMap Piece.masked := by
  rw [maskChars, h.escape, h.hide]

theorem Cut.unmask {s : List Char} {pieces : List Piece} (h : Cut s pieces) :
    unmaskChars (pieces.flatMap Piece.masked) = s := by
  unfold unmaskChars
  induction h with
  | nil => rfl
  | marked _ ih =>
    rw [List.flatMap_cons]
    simp only [Piece.masked, Piece.escaped]
    rw [replaceMatches_some (by simp [sentinel_eq]) (reveal_marked _) rfl, ih]
  | reserved hb _ ih =>
    rw [List.flatMap_cons]
    simp only [Piece.masked]
    rw [replaceMatches_some (by simp [sentinel_eq]) (reveal_reserved hb _) rfl, ih]
  | plain hs _ hc ih =>
    rw [List.flatMap_cons]
    simp only [Piece.masked, Piece.escaped, Piece.source, List.singleton_append]
    rw [replaceMatches_cons_none, ih]
    cases hr : reveal _ with
    | none => rfl
    | some found =>
      obtain ⟨r, hp⟩ := prefix_of_reveal hr
      rw [sentinel_eq, List.cons_append, List.cons.injEq] at hp
      obtain ⟨rfl, hp⟩ := hp
      obtain ⟨r', hr'⟩ := marking_masked.source_starts hp.symm (by decide)
      rw [hc.source] at hr'
      exact absurd ⟨r', by rw [hr']; rfl⟩ hs

theorem unmaskChars_maskChars (s : List Char) : unmaskChars (maskChars s) = s := by
  obtain ⟨pieces, h⟩ := exists_cut s
  rw [h.mask, h.unmask]

/-! ## No opening behind the mask -/

theorem brace_notMem_reserved {blanks : List Char} (hb : ∀ c ∈ blanks, isBlank c = true) {c : Char}
    (hc : c = '\x7b' ∨ c = '\x7d') : c ∉ (Piece.reserved blanks).masked := by
  intro hm
  simp only [Piece.masked, List.mem_append] at hm
  rcases hm with (hm | hm) | hm
  · rcases hc with rfl | rfl <;> exact absurd hm (by decide)
  · rcases hc with rfl | rfl <;> exact blank_ne (hb _ hm) rfl rfl
  · rcases hc with rfl | rfl <;> exact absurd hm (by decide)

theorem StartsOpening.exists_cons {s : List Char} (h : StartsOpening s) :
    ∃ t, s = '\x7b' :: t := by
  obtain ⟨blanks, rest, -, rfl⟩ := h
  exact ⟨_, rfl⟩

theorem Cut.no_opening {s : List Char} {pieces : List Piece} (h : Cut s pieces)
    {before rest : List Char} (hm : pieces.flatMap Piece.masked = before ++ rest) :
    ¬ StartsOpening rest := by
  intro ho
  obtain ⟨t, rfl⟩ := ho.exists_cons
  induction h generalizing before with
  | nil =>
    have := congrArg List.length hm
    simp at this
  | marked _ ih =>
    obtain ⟨before', -, hr⟩ := exists_of_append_eq (x := Piece.marked.masked) (by decide) hm
    exact ih hr
  | reserved hb _ ih =>
    obtain ⟨before', -, hr⟩ := exists_of_append_eq (brace_notMem_reserved hb (.inl rfl)) hm
    exact ih hr
  | @plain c s pieces _ hn hc ih =>
    cases before with
    | nil =>
      rw [List.nil_append] at hm
      rw [← hm] at ho
      have hs := marking_masked.startsOpening (c := c) ho
      rw [hc.source] at hs
      exact hn hs
    | cons d before =>
      exact ih (List.cons.inj hm).2

/-- The mask can be undone, and behind it no opening of the backend is left. -/
theorem mask_reversible_complete (s : String) :
    unmask (mask s) = s ∧
      ∀ before rest, (mask s).toList = before ++ rest → ¬ StartsOpening rest := by
  constructor
  · rw [unmask, mask, String.toList_ofList, unmaskChars_maskChars, String.ofList_toList]
  · intro before rest h
    rw [mask, String.toList_ofList] at h
    obtain ⟨pieces, hc⟩ := exists_cut s.toList
    rw [hc.mask] at h
    exact hc.no_opening h

end Rollout.Placeholder
