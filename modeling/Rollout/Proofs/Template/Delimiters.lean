import Rollout.Proofs.Template.Literal
import Rollout.Proofs.Template.Selector
import Rollout.Proofs.Text.Replacing

/-!
# The delimiters of selectors

A selector's delimiters are replaced wherever they stand, one kind after the other, also in literals. What
that comes to is told here for a text around one expression: a delimiter in front or behind becomes a
parenthesis, and one in a literal takes two braces away, which is seen by counting them.
-/

namespace Rollout.Template

open Text

variable {c : Char} {s x y : List Char}

/-! ## Replacing delimiters -/

/-- A text with its delimiters replaced, but for opening ones with a mark. -/
def groupPlain (s : List Char) : List Char :=
  replaceAll "\x7d\x7d".toList [')'] <| replaceAll "\x7b\x7b".toList ['('] <|
    replaceAll " -\x7d\x7d".toList [')'] s

theorem groupDelimiters_eq_groupPlain (s : List Char) :
    groupDelimiters s = groupPlain (replaceAll "\x7b\x7b- ".toList ['('] s) :=
  rfl

theorem groupPlain_cons (hb : c ≠ ' ') (ho : c ≠ '\x7b') (hc : c ≠ '\x7d') (s : List Char) :
    groupPlain (c :: s) = c :: groupPlain s := by
  have h₁ := replaceAll_cons_of_ne (p := ['-', '\x7d', '\x7d']) hb.symm [')'] s
  have h₂ := replaceAll_cons_of_ne (p := ['\x7b']) ho.symm ['('] (replaceAll " -\x7d\x7d".toList [')'] s)
  exact (congrArg _ ((congrArg _ h₁).trans h₂)).trans (replaceAll_cons_of_ne hc.symm _ _)

theorem groupPlain_append_cons (hm : c ≠ '-') (ho : c ≠ '\x7b') (hc : c ≠ '\x7d') (x y : List Char) :
    groupPlain (x ++ c :: y) = groupPlain x ++ groupPlain (c :: y) := by
  obtain ⟨d, z, hd, hdo, hdc⟩ : ∃ d z, replaceAll " -\x7d\x7d".toList [')'] (c :: y) = d :: z ∧
      d ≠ '\x7b' ∧ d ≠ '\x7d' := by
    by_cases hp : " -\x7d\x7d".toList <+: c :: y
    · obtain ⟨rest, hr⟩ := hp
      rw [← hr, replaceAll_append_self (by decide)]
      exact ⟨')', _, rfl, by decide, by decide⟩
    · rw [← strip?_eq_none_iff] at hp
      exact ⟨c, _, replaceMatches_cons_none (by rw [hp]; rfl), ho, hc⟩
  have marked : c ∉ " -\x7d\x7d".toList.tail := by simp [hm, hc]
  have opens : d ∉ "\x7b\x7b".toList.tail := by simp [hdo]
  have closes : d ∉ "\x7d\x7d".toList.tail := by simp [hdc]
  have kept (s : List Char) : replaceAll "\x7b\x7b".toList ['('] (d :: s) =
      d :: replaceAll "\x7b\x7b".toList ['('] s :=
    replaceAll_cons_of_ne hdo.symm ['('] s
  unfold groupPlain
  rw [replaceAll_append_cons (by decide) marked, hd, replaceAll_append_cons (by decide) opens, kept,
    replaceAll_append_cons (by decide) closes]

theorem groupPlain_of_undelimited (ho : ¬ "\x7b\x7b".toList <:+: s) (hc : ¬ "\x7d\x7d".toList <:+: s) :
    groupPlain s = s := by
  have marked : ¬ " -\x7d\x7d".toList <:+: s := fun h => hc (List.IsInfix.trans (by decide) h)
  unfold groupPlain
  rw [replaceAll_of_absent (by decide) marked, replaceAll_of_absent (by decide) ho,
    replaceAll_of_absent (by decide) hc]

theorem groupDelimiters_of_unopened (ho : ¬ "\x7b\x7b".toList <:+: s) :
    groupDelimiters s = groupPlain s := by
  have marked : ¬ "\x7b\x7b- ".toList <:+: s := fun h => ho (List.IsInfix.trans (by decide) h)
  rw [groupDelimiters_eq_groupPlain, replaceAll_of_absent (by decide) marked]

/-! ## The opening delimiter -/

section

variable {front : List Char}

theorem groupPlain_append_paren (ho : '\x7b' ∉ front) (hc : '\x7d' ∉ front) (s : List Char) :
    groupPlain (front ++ '(' :: s) = front ++ '(' :: groupPlain s := by
  rw [groupPlain_append_cons (by decide) (by decide) (by decide),
    groupPlain_cons (by decide) (by decide) (by decide),
    groupPlain_of_undelimited (fun h => ho (h.subset List.mem_cons_self))
      (fun h => hc (h.subset List.mem_cons_self))]

theorem groupPlain_append_open (ho : '\x7b' ∉ front) (hc : '\x7d' ∉ front) (s : List Char) :
    groupPlain (front ++ '\x7b' :: '\x7b' :: s) = front ++ '(' :: groupPlain s := by
  have marked : '\x7b' ∉ " -\x7d\x7d".toList.tail := by decide
  have braces (s : List Char) : replaceAll " -\x7d\x7d".toList [')'] ('\x7b' :: '\x7b' :: s) =
      '\x7b' :: '\x7b' :: replaceAll " -\x7d\x7d".toList [')'] s := by
    have brace (s : List Char) := replaceAll_cons_of_ne (a := ' ') (c := '\x7b')
      (p := ['-', '\x7d', '\x7d']) (by decide) [')'] s
    exact (brace _).trans (congrArg ('\x7b' :: ·) (brace s))
  have opened (s : List Char) : replaceAll "\x7b\x7b".toList ['('] (front ++ '\x7b' :: '\x7b' :: s) =
      front ++ '(' :: replaceAll "\x7b\x7b".toList ['('] s := by
    have kept := replaceAll_append_of_notMem (p := ['\x7b']) ho ['('] ('\x7b' :: '\x7b' :: s)
    exact kept.trans (congrArg (front ++ ·) (replaceAll_append_self (by decide) ['('] s))
  unfold groupPlain
  rw [replaceAll_append_cons (by decide) marked, braces, replaceAll_of_notMem (by decide) hc, opened,
    replaceAll_append_cons (by decide) (by decide), replaceAll_of_notMem (by decide) hc]
  exact congrArg (front ++ ·) (replaceAll_cons_of_ne (by decide) _ _)

theorem groupDelimiters_trim (ho : '\x7b' ∉ front) (hc : '\x7d' ∉ front) (s : List Char) :
    groupDelimiters (front ++ "\x7b\x7b- ".toList ++ s) = front ++ '(' :: groupDelimiters s := by
  have opened : replaceAll "\x7b\x7b- ".toList ['('] (front ++ "\x7b\x7b- ".toList ++ s) =
      front ++ '(' :: replaceAll "\x7b\x7b- ".toList ['('] s := by
    have kept := replaceAll_append_of_notMem (p := ['\x7b', '-', ' ']) ho ['('] ("\x7b\x7b- ".toList ++ s)
    rw [List.append_assoc]
    exact kept.trans (congrArg (front ++ ·) (replaceAll_append_self (by decide) ['('] s))
  rw [groupDelimiters_eq_groupPlain, opened, groupPlain_append_paren ho hc, groupDelimiters_eq_groupPlain]

theorem groupDelimiters_open (ho : '\x7b' ∉ front) (hc : '\x7d' ∉ front)
    (first : ¬ ['\x7b'] <+: s) (trims : ¬ ['-', ' '] <+: s) :
    groupDelimiters (front ++ "\x7b\x7b".toList ++ s) = front ++ '(' :: groupDelimiters s := by
  have opened : replaceAll "\x7b\x7b- ".toList ['('] (front ++ "\x7b\x7b".toList ++ s) =
      front ++ '\x7b' :: '\x7b' :: replaceAll "\x7b\x7b- ".toList ['('] s := by
    have kept := replaceAll_append_of_notMem (p := ['\x7b', '-', ' ']) ho ['('] ("\x7b\x7b".toList ++ s)
    have trims₁ : strip? "\x7b\x7b- ".toList ('\x7b' :: '\x7b' :: s) = none := by
      rw [strip?_eq_none_iff]
      rintro ⟨rest, hr⟩
      exact trims ⟨rest, by simpa using hr⟩
    have trims₂ : strip? "\x7b\x7b- ".toList ('\x7b' :: s) = none := by
      rw [strip?_eq_none_iff]
      rintro ⟨rest, hr⟩
      exact first ⟨'-' :: ' ' :: rest, by simpa using hr⟩
    rw [List.append_assoc]
    refine kept.trans (congrArg (front ++ ·) ((replaceMatches_cons_none ?_).trans
      (congrArg ('\x7b' :: ·) (replaceMatches_cons_none ?_))))
    · exact congrArg (Option.map _) trims₁
    · exact congrArg (Option.map _) trims₂
  rw [groupDelimiters_eq_groupPlain, opened, groupPlain_append_open ho hc, groupDelimiters_eq_groupPlain]

end

/-! ## What is taken away -/

theorem infix_replaceAll {a : Char} {p r : List Char} (hp : p ≠ []) (ha : a ∉ p) (h : [a, a] <:+: s) :
    [a, a] <:+: replaceAll p r s := by
  obtain ⟨before, behind, rfl⟩ := h
  obtain ⟨b, p, rfl⟩ := List.exists_cons_of_ne_nil hp
  rw [List.mem_cons, not_or] at ha
  have kept : replaceAll (b :: p) r (before ++ a :: a :: behind) =
      replaceAll (b :: p) r before ++ a :: a :: replaceAll (b :: p) r behind := by
    rw [replaceAll_append_cons hp ha.2, replaceAll_cons_of_ne (Ne.symm ha.1),
      replaceAll_cons_of_ne (Ne.symm ha.1)]
  exact ⟨_, _, by simpa using kept.symm⟩

theorem count_groupDelimiters (h : c ∉ ['\x7b', '\x7d', '-', ' ', '(', ')']) (s : List Char) :
    (groupDelimiters s).count c = s.count c := by
  have kept {p r : List Char} (hn : p ≠ []) (hp : p ⊆ ['\x7b', '\x7d', '-', ' ', '(', ')'])
      (hr : r ⊆ ['\x7b', '\x7d', '-', ' ', '(', ')']) (s : List Char) :
      (replaceAll p r s).count c = s.count c :=
    count_replaceAll hn (fun hm => h (hp hm)) (fun hm => h (hr hm)) s
  rw [groupDelimiters_eq_groupPlain, groupPlain, kept (by decide) (by decide) (by decide),
    kept (by decide) (by decide) (by decide), kept (by decide) (by decide) (by decide),
    kept (by decide) (by decide) (by decide)]

theorem count_groupDelimiters_open (h : "\x7b\x7b".toList <:+: s) :
    (groupDelimiters s).count '\x7b' + 2 ≤ s.count '\x7b' := by
  have closed (s : List Char) : (groupPlain s).count '\x7b' =
      (replaceAll "\x7b\x7b".toList ['('] (replaceAll " -\x7d\x7d".toList [')'] s)).count '\x7b' :=
    count_replaceAll (by decide) (by decide) (by decide) _
  have opened (s : List Char) : (replaceAll "\x7b\x7b".toList ['('] s).count '\x7b' ≤ s.count '\x7b' :=
    count_replaceAll_le (by decide) (by decide) s
  have marked (s : List Char) : (replaceAll " -\x7d\x7d".toList [')'] s).count '\x7b' = s.count '\x7b' :=
    count_replaceAll (by decide) (by decide) (by decide) s
  rw [groupDelimiters_eq_groupPlain, closed]
  by_cases ht : "\x7b\x7b- ".toList <:+: s
  · have taken : (replaceAll "\x7b\x7b- ".toList ['('] s).count '\x7b' + 2 ≤ s.count '\x7b' :=
      count_replaceAll_of_occurrence (by decide) (by decide) ht
    exact (Nat.add_le_add_right ((opened _).trans_eq (marked _)) 2).trans taken
  · rw [replaceAll_of_absent (by decide) ht]
    have kept : "\x7b\x7b".toList <:+: replaceAll " -\x7d\x7d".toList [')'] s :=
      infix_replaceAll (by decide) (by decide) h
    exact (count_replaceAll_of_occurrence (by decide) (by decide) kept).trans_eq (marked s)

theorem count_groupPlain_close (h : "\x7d\x7d".toList <:+: s) :
    (groupPlain s).count '\x7d' + 2 ≤ s.count '\x7d' := by
  have opened (s : List Char) : (replaceAll "\x7b\x7b".toList ['('] s).count '\x7d' = s.count '\x7d' :=
    count_replaceAll (by decide) (by decide) (by decide) s
  have closed (s : List Char) : (replaceAll "\x7d\x7d".toList [')'] s).count '\x7d' ≤ s.count '\x7d' :=
    count_replaceAll_le (by decide) (by decide) s
  unfold groupPlain
  by_cases ht : " -\x7d\x7d".toList <:+: s
  · have taken : (replaceAll " -\x7d\x7d".toList [')'] s).count '\x7d' + 2 ≤ s.count '\x7d' :=
      count_replaceAll_of_occurrence (by decide) (by decide) ht
    exact (Nat.add_le_add_right ((closed _).trans_eq (opened _)) 2).trans taken
  · rw [replaceAll_of_absent (by decide) ht]
    have kept : "\x7d\x7d".toList <:+: replaceAll "\x7b\x7b".toList ['('] s :=
      infix_replaceAll (by decide) (by decide) h
    exact (count_replaceAll_of_occurrence (by decide) (by decide) kept).trans_eq (opened s)

/-! ## The closing delimiter -/

section

variable {behind : List Char}

theorem groupPlain_end (hx : ∀ a ∈ ['-', '\x7b', '\x7d'], a ∉ x) (hb : ∀ c ∈ behind, isBlank c = true) :
    groupPlain (x ++ "\x7d\x7d".toList ++ behind) = x ++ ')' :: behind := by
  have minus : '-' ∉ x ++ "\x7d\x7d".toList ++ behind := by
    simp [hx, notMem_of_isBlank (a := '-') hb rfl]
  have opens : '\x7b' ∉ x ++ "\x7d\x7d".toList ++ behind := by
    simp [hx, notMem_of_isBlank (a := '\x7b') hb rfl]
  have closes : '\x7d' ∉ behind := notMem_of_isBlank hb rfl
  have closed := replaceAll_append_of_notMem (p := ['\x7d']) (hx '\x7d' (by decide)) [')']
    ("\x7d\x7d".toList ++ behind)
  unfold groupPlain
  rw [replaceAll_of_notMem (by decide) minus, replaceAll_of_notMem (by decide) opens, List.append_assoc]
  refine closed.trans (congrArg (x ++ ·) ?_)
  exact (replaceAll_append_self (by decide) [')'] behind).trans
    (congrArg (')' :: ·) (replaceAll_of_notMem (by decide) closes [')']))

theorem groupDelimiters_of_notMem (hx : ∀ a ∈ ['-', '\x7b', '\x7d'], a ∉ x) :
    groupDelimiters ("\x7b\x7b".toList ++ x ++ "\x7d\x7d".toList) = '(' :: (x ++ [')']) := by
  have opens : '\x7b' ∉ x ++ "\x7d\x7d".toList := by simp [hx]
  have minus : '-' ∉ x ++ "\x7d\x7d".toList := by simp [hx]
  have opened := groupDelimiters_open (List.not_mem_nil (a := '\x7b')) (List.not_mem_nil (a := '\x7d'))
    (fun h => opens (h.subset List.mem_cons_self)) (fun h => minus (h.subset List.mem_cons_self))
  have closed := groupPlain_end hx (List.forall_mem_nil _)
  rw [List.append_nil] at closed
  rw [groupDelimiters_of_unopened fun h => opens (h.subset List.mem_cons_self), closed] at opened
  rw [List.append_assoc]
  exact opened

theorem groupPlain_trim (hb : ∀ c ∈ behind, isBlank c = true) :
    groupPlain (" -\x7d\x7d".toList ++ behind) = ')' :: behind := by
  have minus : '-' ∉ behind := notMem_of_isBlank hb rfl
  have opens : '\x7b' ∉ ')' :: behind := by simp [notMem_of_isBlank (a := '\x7b') hb rfl]
  have closes : '\x7d' ∉ ')' :: behind := by simp [notMem_of_isBlank (a := '\x7d') hb rfl]
  unfold groupPlain
  rw [replaceAll_append_self (by decide), replaceAll_of_notMem (by decide) minus, List.singleton_append,
    replaceAll_of_notMem (by decide) opens, replaceAll_of_notMem (by decide) closes]

end

end Rollout.Template
