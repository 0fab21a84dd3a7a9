import Rollout.Proofs.Text.Matching

/-!
# Replacing every occurrence

A replacement goes from one occurrence to the next one behind it. So it goes through a text part by part
where no occurrence can lie across, and takes the characters of a pattern away with each occurrence.
-/

namespace Rollout.Text

variable {a c : Char} {p r s t : List Char}

theorem strip?_append_cons_tail {x : List Char} (hx : x ≠ []) (hc : c ∉ p.tail) (r : List Char) :
    strip? p (x ++ c :: r) = (strip? p x).map (· ++ c :: r) := by
  cases p with
  | nil => rfl
  | cons a p =>
    obtain ⟨d, x, rfl⟩ := List.exists_cons_of_ne_nil hx
    by_cases hd : a = d
    · simp only [List.cons_append, strip?, if_pos hd, strip?_append_cons (by simpa using hc)]
    · simp only [List.cons_append, strip?, if_neg hd, Option.map_none]

theorem replaceAll_append_of_notMem {x : List Char} (h : a ∉ x) (r s : List Char) :
    replaceAll (a :: p) r (x ++ s) = x ++ replaceAll (a :: p) r s := by
  refine replaceMatches_append (fun c hc t => ?_) s
  have hne : a ≠ c := fun he => h (he ▸ hc)
  rw [strip?, if_neg hne, Option.map_none]

theorem replaceAll_cons_of_ne (h : a ≠ c) (r s : List Char) :
    replaceAll (a :: p) r (c :: s) = c :: replaceAll (a :: p) r s :=
  replaceAll_append_of_notMem (x := [c]) (by simpa using h) r s

theorem replaceAll_append_self (hp : p ≠ []) (r s : List Char) :
    replaceAll p r (p ++ s) = r ++ replaceAll p r s := by
  have found : (strip? p (p ++ s)).map (fun _ => (⟨p.length, r⟩ : Replacement)) =
      some ⟨p.length, r⟩ := by
    rw [strip?_append_self, Option.map_some]
  have taken : (⟨p.length, r⟩ : Replacement).taken = p.length := rfl
  exact replaceMatches_some hp found taken

theorem replaceAll_of_absent (hp : p ≠ []) (h : ¬ p <:+: s) (r : List Char) :
    replaceAll p r s = s :=
  replaceAll_of_cut?_none ((cut?_eq_none_iff hp).2 h) r

theorem replaceAll_of_notMem (ha : a ∈ p) (h : a ∉ s) (r : List Char) : replaceAll p r s = s :=
  replaceAll_of_absent (List.ne_nil_of_mem ha) (fun hi => h (hi.subset ha)) r

/-! ## From one occurrence to the next -/

/-- A text and the same with every occurrence of a pattern replaced. -/
inductive Replaced (p r : List Char) : List Char → List Char → Prop where
  | last {text} : cut? p text = none → Replaced p r text text
  | next {text before rest replaced} : cut? p text = some (before, rest) → Replaced p r rest replaced →
      Replaced p r text (before ++ r ++ replaced)

theorem replaced_replaceAll (hp : p ≠ []) (r s : List Char) : Replaced p r s (replaceAll p r s) := by
  induction hn : s.length using Nat.strongRecOn generalizing s with
  | ind n ih =>
    cases hc : cut? p s with
    | none =>
      rw [replaceAll_of_cut?_none hc]
      exact .last hc
    | some cut =>
      obtain ⟨before, rest⟩ := cut
      have lt : rest.length < n := by
        have := List.length_pos_iff.2 hp
        rw [← hn, eq_of_cut? hc]
        simp only [List.length_append]
        omega
      rw [replaceAll_of_cut? hp hc]
      exact .next hc (ih rest.length lt rest rfl)

/-- An occurrence lies across no character that a pattern has only in front. -/
theorem Replaced.append_cons (h : Replaced p r s t) (hp : p ≠ []) (hc : c ∉ p.tail)
    (next : List Char) : replaceAll p r (s ++ c :: next) = t ++ replaceAll p r (c :: next) := by
  induction h with
  | @last s h =>
    induction s with
    | nil => rfl
    | cons d s ih =>
      rw [cut?] at h
      cases hs : strip? p (d :: s) with
      | some rest =>
        rw [hs] at h
        cases h
      | none =>
        simp only [hs, Option.map_eq_none_iff] at h
        have hs' : strip? p (d :: (s ++ c :: next)) = none := by
          rw [← List.cons_append, strip?_append_cons_tail (List.cons_ne_nil d s) hc, hs, Option.map_none]
        rw [List.cons_append, replaceAll, replaceMatches_cons_none (by rw [hs', Option.map_none])]
        exact congrArg (d :: ·) (ih h)
  | @next s before rest _ h _ ih =>
    have hcut := cut?_append hp h (rest ++ c :: next)
    rw [eq_of_cut? h, List.append_assoc, replaceAll_of_cut? hp hcut, ih]
    simp only [List.append_assoc]

theorem replaceAll_append_cons (hp : p ≠ []) (hc : c ∉ p.tail) (r x next : List Char) :
    replaceAll p r (x ++ c :: next) = replaceAll p r x ++ replaceAll p r (c :: next) :=
  (replaced_replaceAll hp r x).append_cons hp hc next

/-! ## Characters -/

theorem Replaced.count_eq (h : Replaced p r s t) (hp : c ∉ p) (hr : c ∉ r) : t.count c = s.count c := by
  induction h with
  | last => rfl
  | next h _ ih =>
    rw [eq_of_cut? h]
    simp only [List.count_append, ih, List.count_eq_zero_of_not_mem hp, List.count_eq_zero_of_not_mem hr]

theorem Replaced.count_le (h : Replaced p r s t) (hr : c ∉ r) : t.count c ≤ s.count c := by
  induction h with
  | last => exact le_rfl
  | next h _ ih =>
    rw [eq_of_cut? h]
    simp only [List.count_append, List.count_eq_zero_of_not_mem hr]
    omega

theorem count_replaceAll (hn : p ≠ []) (hp : c ∉ p) (hr : c ∉ r) (s : List Char) :
    (replaceAll p r s).count c = s.count c :=
  (replaced_replaceAll hn r s).count_eq hp hr

theorem count_replaceAll_le (hn : p ≠ []) (hr : c ∉ r) (s : List Char) :
    (replaceAll p r s).count c ≤ s.count c :=
  (replaced_replaceAll hn r s).count_le hr

theorem count_replaceAll_of_occurrence (hn : p ≠ []) (hr : c ∉ r) (h : p <:+: s) :
    (replaceAll p r s).count c + p.count c ≤ s.count c := by
  cases hc : cut? p s with
  | none => exact absurd h ((cut?_eq_none_iff hn).1 hc)
  | some cut =>
    obtain ⟨before, rest⟩ := cut
    have := count_replaceAll_le hn hr rest
    rw [replaceAll_of_cut? hn hc, eq_of_cut? hc]
    simp only [List.count_append, List.count_eq_zero_of_not_mem hr]
    omega

end Rollout.Text
