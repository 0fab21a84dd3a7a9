import Mathlib.Data.List.Forall2

/-!
# Outcomes

A computation that can fail, seen through what it answers when it does not.
-/

namespace Rollout

section

variable {ε α β : Type}

theorem bind_eq_ok {x : Except ε α} {f : α → Except ε β} {b : β} :
    (x >>= f) = .ok b ↔ ∃ a, x = .ok a ∧ f a = .ok b := by
  cases x with
  | error e => simp [bind, Except.bind]
  | ok a => simp [bind, Except.bind]

theorem bind_eq_error {x : Except ε α} {f : α → Except ε β} {e : ε} :
    (x >>= f) = .error e ↔ x = .error e ∨ ∃ a, x = .ok a ∧ f a = .error e := by
  cases x with
  | error e' => simp [bind, Except.bind]
  | ok a => simp [bind, Except.bind]

theorem map_eq_ok {x : Except ε α} {f : α → β} {b : β} :
    f <$> x = .ok b ↔ ∃ a, x = .ok a ∧ f a = b := by
  cases x with
  | error e => simp [Functor.map, Except.map]
  | ok a => simp [Functor.map, Except.map]

/-- Whether a computation answers with what satisfies one condition, or fails with what satisfies
another. -/
def Ensures (good : α → Prop) (bad : ε → Prop) : Except ε α → Prop
  | .ok a => good a
  | .error e => bad e

section

variable {good good' : α → Prop} {bad bad' : ε → Prop} {x : Except ε α}

theorem Ensures.ok {a : α} (h : Ensures good bad x) (ha : x = .ok a) : good a := by
  rw [ha] at h
  exact h

theorem Ensures.error {e : ε} (h : Ensures good bad x) (he : x = .error e) : bad e := by
  rw [he] at h
  exact h

theorem ensures_of_error (h : ∀ e, x = .error e → bad e) : Ensures (fun a => x = .ok a) bad x := by
  cases x with
  | error e => exact h e rfl
  | ok a => rfl

theorem Ensures.bind {goal : β → Prop} {f : α → Except ε β} (h : Ensures good bad x)
    (hf : ∀ a, good a → Ensures goal bad (f a)) : Ensures goal bad (x >>= f) := by
  cases x with
  | error e => exact h
  | ok a => exact hf a h

theorem Ensures.mono (h : Ensures good bad x) (hg : ∀ a, good a → good' a) (hb : ∀ e, bad e → bad' e) :
    Ensures good' bad' x := by
  cases x with
  | error e => exact hb e h
  | ok a => exact hg a h

end

theorem toOption_bind (x : Except ε α) (f : α → Except ε β) :
    (x >>= f).toOption = x.toOption.bind fun a => (f a).toOption := by
  cases x <;> rfl

theorem toOption_eq_some {x : Except ε α} {a : α} : x.toOption = some a ↔ x = .ok a := by
  cases x <;> simp [Except.toOption]

theorem toOption_eq_none {x : Except ε α} : x.toOption = none ↔ ∃ e, x = .error e := by
  cases x <;> simp [Except.toOption]

theorem mapM_eq_ok_iff {f : α → Except ε β} {xs : List α} {ys : List β} :
    xs.mapM f = .ok ys ↔ List.Forall₂ (fun x y => f x = .ok y) xs ys := by
  induction xs generalizing ys with
  | nil =>
    rw [List.mapM_nil, List.forall₂_nil_left_iff]
    exact ⟨fun h => (Except.ok.inj h).symm, fun h => h ▸ rfl⟩
  | cons x xs ih =>
    rw [List.mapM_cons, bind_eq_ok, List.forall₂_cons_left_iff]
    constructor
    · rintro ⟨y, hy, h⟩
      obtain ⟨ys', hys, h⟩ := bind_eq_ok.1 h
      exact ⟨y, ys', hy, ih.1 hys, (Except.ok.inj h).symm⟩
    · rintro ⟨y, ys', hy, hys, rfl⟩
      exact ⟨y, hy, bind_eq_ok.2 ⟨ys', ih.2 hys, rfl⟩⟩

theorem forall_mem_of_forall₂ {R : α → β → Prop} {P : β → Prop} {xs : List α} {ys : List β}
    (h : List.Forall₂ R xs ys) (hp : ∀ x ∈ xs, ∀ y, R x y → P y) : ∀ y ∈ ys, P y := by
  induction h with
  | nil => exact List.forall_mem_nil P
  | cons hr _ ih =>
    rw [List.forall_mem_cons] at hp
    exact List.forall_mem_cons.2 ⟨hp.1 _ hr, ih hp.2⟩

theorem exists_mem_zip_of_forall₂ {R : α → β → Prop} {xs : List α} {ys : List β}
    (h : List.Forall₂ R xs ys) {y : β} (hy : y ∈ ys) : ∃ x, (x, y) ∈ xs.zip ys ∧ R x y := by
  induction h with
  | nil => cases hy
  | @cons x y' _ _ hr _ ih =>
    rcases List.mem_cons.1 hy with rfl | hy
    · exact ⟨x, List.mem_cons_self, hr⟩
    · obtain ⟨x', hm, hr'⟩ := ih hy
      exact ⟨x', List.mem_cons_of_mem _ hm, hr'⟩

end

end Rollout
