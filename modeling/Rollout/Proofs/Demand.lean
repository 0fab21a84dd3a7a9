import Rollout.Proofs.Outcome

/-!
# Demands

A row of conditions in the order in which they are checked, each with the error of what does not meet
it. A computation answers to such a row if it succeeds when all of them are met and otherwise fails
for the first that is not (`Answers.ok_iff`, `Answers.error_iff`).
-/

namespace Rollout

structure Demand (ε : Type) where
  met : Prop
  error : ε

inductive FirstUnmet {ε : Type} : List (Demand ε) → ε → Prop where
  | here {d rest} : ¬ d.met → FirstUnmet (d :: rest) d.error
  | behind {d rest e} : d.met → FirstUnmet rest e → FirstUnmet (d :: rest) e

inductive Answers {ε α : Type} (demands : List (Demand ε)) : Except ε α → Prop where
  | ok {a} : (∀ d ∈ demands, d.met) → Answers demands (.ok a)
  | error {e} : FirstUnmet demands e → Answers demands (.error e)

section

variable {ε α β : Type} {demands more : List (Demand ε)}

/-! ## The first demand that is not met -/

theorem FirstUnmet.not_met {e : ε} (h : FirstUnmet demands e) : ¬ ∀ d ∈ demands, d.met := by
  intro met
  induction h with
  | here hd => exact hd (met _ List.mem_cons_self)
  | behind _ _ ih => exact ih fun d hm => met d (List.mem_cons_of_mem _ hm)

theorem FirstUnmet.unique {e e' : ε} (h : FirstUnmet demands e) (h' : FirstUnmet demands e') :
    e = e' := by
  induction h with
  | here hd =>
    cases h' with
    | here => rfl
    | behind hm _ => exact absurd hm hd
  | behind hm _ ih =>
    cases h' with
    | here hd => exact absurd hm hd
    | behind _ h' => exact ih h'

theorem FirstUnmet.append {e : ε} (h : FirstUnmet demands e) (more : List (Demand ε)) :
    FirstUnmet (demands ++ more) e := by
  induction h with
  | here hd => exact .here hd
  | behind hm _ ih => exact .behind hm ih

theorem FirstUnmet.append_left {e : ε} (met : ∀ d ∈ demands, d.met) (h : FirstUnmet more e) :
    FirstUnmet (demands ++ more) e := by
  induction demands with
  | nil => exact h
  | cons d demands ih =>
    rw [List.forall_mem_cons] at met
    exact .behind met.1 (ih met.2)

theorem FirstUnmet.exists_mem {e : ε} (h : FirstUnmet demands e) : ∃ d ∈ demands, d.error = e := by
  induction h with
  | here => exact ⟨_, List.mem_cons_self, rfl⟩
  | behind _ _ ih =>
    obtain ⟨d, hm, he⟩ := ih
    exact ⟨d, List.mem_cons_of_mem _ hm, he⟩

/-! ## Answers -/

theorem Answers.ok_iff {x : Except ε α} (h : Answers demands x) :
    (∃ a, x = .ok a) ↔ ∀ d ∈ demands, d.met := by
  cases h with
  | ok met => exact ⟨fun _ => met, fun _ => ⟨_, rfl⟩⟩
  | error unmet =>
    constructor
    · rintro ⟨a, ha⟩
      cases ha
    · intro met
      exact absurd met unmet.not_met

theorem Answers.error_iff {x : Except ε α} (h : Answers demands x) (e : ε) :
    x = .error e ↔ FirstUnmet demands e := by
  cases h with
  | ok met =>
    constructor
    · intro he
      cases he
    · intro unmet
      exact absurd met unmet.not_met
  | error unmet =>
    constructor
    · intro he
      cases he
      exact unmet
    · intro unmet'
      rw [unmet.unique unmet']

theorem Answers.single {d : Demand ε} {x : Except ε α} (met : d.met → ∃ a, x = .ok a)
    (unmet : ¬ d.met → x = .error d.error) : Answers [d] x := by
  by_cases hd : d.met
  · obtain ⟨a, rfl⟩ := met hd
    exact .ok (List.forall_mem_singleton.2 hd)
  · rw [unmet hd]
    exact .error (.here hd)

theorem Answers.bind {x : Except ε α} {f : α → Except ε β} (h : Answers demands x)
    (hf : ∀ a, x = .ok a → Answers more (f a)) : Answers (demands ++ more) (x >>= f) := by
  cases h with
  | error unmet => exact .error (unmet.append more)
  | @ok a met =>
    have next := hf a rfl
    change Answers _ (f a)
    cases hx : f a with
    | error e =>
      rw [hx] at next
      exact .error (.append_left met ((next.error_iff e).1 rfl))
    | ok b =>
      rw [hx] at next
      exact .ok (List.forall_mem_append.2 ⟨met, next.ok_iff.1 ⟨b, rfl⟩⟩)

theorem Answers.bind_ok {x : Except ε α} {f : α → Except ε β} (h : Answers demands x)
    (hf : ∀ a, x = .ok a → ∃ b, f a = .ok b) : Answers demands (x >>= f) := by
  have done : ∀ a, x = .ok a → Answers [] (f a) := by
    intro a ha
    obtain ⟨b, hb⟩ := hf a ha
    rw [hb]
    exact .ok (List.forall_mem_nil _)
  simpa using h.bind done

theorem Answers.mapM {demandsOf : α → List (Demand ε)} {f : α → Except ε β} {xs : List α}
    (h : ∀ x ∈ xs, Answers (demandsOf x) (f x)) : Answers (xs.flatMap demandsOf) (xs.mapM f) := by
  induction xs with
  | nil => exact .ok (List.forall_mem_nil _)
  | cons x xs ih =>
    rw [List.forall_mem_cons] at h
    rw [List.mapM_cons, List.flatMap_cons]
    apply h.1.bind
    intro y _
    exact (ih h.2).bind_ok fun ys _ => ⟨y :: ys, rfl⟩

end

end Rollout
