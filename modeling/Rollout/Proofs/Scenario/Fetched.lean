import Mathlib.Data.List.Forall2
import Rollout.Scenario.Download

/-!
# Computations that download

A computation that may download, seen through what it answers when it does not fail and through what
it asks for, and the ones that neither fail nor download.
-/

namespace Rollout.Fetched

variable {α β : Type}

theorem bind_result_eq_ok {x : Fetched α} {f : α → Fetched β} {b : β} :
    (x >>= f).result = .ok b ↔ ∃ a, x.result = .ok a ∧ (f a).result = .ok b := by
  obtain ⟨downloads, result⟩ := x
  cases result with
  | error e =>
    constructor
    · intro h
      cases h
    · rintro ⟨a, ha, -⟩
      cases ha
  | ok a =>
    constructor
    · intro h
      exact ⟨a, rfl, h⟩
    · rintro ⟨a', ha, h⟩
      cases ha
      exact h

theorem fetch_result_eq_ok {downloader : Downloader} {request : Download} {path : String}
    (h : (fetch downloader request).result = .ok path) : downloader request = .ok path := by
  unfold fetch at h
  cases hd : downloader request with
  | error reason =>
    simp only [hd] at h
    cases h
  | ok path' =>
    simp only [hd] at h
    cases h
    rfl

theorem each_result_eq_ok {f : α → Fetched β} {xs : List α} {ys : List β}
    (h : (each f xs).result = .ok ys) : List.Forall₂ (fun x y => (f x).result = .ok y) xs ys := by
  induction xs generalizing ys with
  | nil =>
    cases h
    exact .nil
  | cons x xs ih =>
    obtain ⟨y, hy, h⟩ := bind_result_eq_ok.1 h
    obtain ⟨ys', hys, h⟩ := bind_result_eq_ok.1 h
    cases h
    exact .cons hy (ih hys)

theorem each_eq_pure {f : α → Fetched α} {xs : List α} (h : ∀ x ∈ xs, f x = pure x) :
    each f xs = pure xs := by
  induction xs with
  | nil => rfl
  | cons x xs ih =>
    rw [List.forall_mem_cons] at h
    rw [each, h.1, ih h.2]
    rfl

/-! ## Requests -/

/-- What a computation asks for, all of it unless it fails. -/
structure Asks (x : Fetched α) (requests : List Download) : Prop where
  made : x.downloads <+: requests
  all : ∀ a, x.result = .ok a → x.downloads = requests

variable {x : Fetched α} {f : α → Fetched β} {before behind : List Download}

theorem asks_pure (a : α) : Asks (pure a) [] :=
  ⟨List.prefix_rfl, fun _ _ => rfl⟩

theorem asks_lift (result : Except ScenarioError α) : Asks (lift result) [] :=
  ⟨List.prefix_rfl, fun _ _ => rfl⟩

theorem asks_fail (e : ScenarioError) (requests : List Download) : Asks (fail (α := α) e) requests :=
  ⟨List.nil_prefix, nofun⟩

theorem asks_fetch (downloader : Downloader) (request : Download) :
    Asks (fetch downloader request) [request] :=
  ⟨List.prefix_rfl, fun _ _ => rfl⟩

theorem Asks.bind (hx : Asks x before) (hf : ∀ a, x.result = .ok a → Asks (f a) behind) :
    Asks (x >>= f) (before ++ behind) := by
  obtain ⟨downloads, result⟩ := x
  cases result with
  | error e => exact ⟨hx.made.trans (List.prefix_append _ _), nofun⟩
  | ok a =>
    obtain rfl : downloads = before := hx.all a rfl
    have hb := hf a rfl
    exact ⟨(List.prefix_append_right_inj _).2 hb.made,
      fun b hr => congrArg (downloads ++ ·) (hb.all b hr)⟩

theorem asks_each {requests : α → List Download} {xs : List α}
    (h : ∀ x ∈ xs, Asks (f x) (requests x)) : Asks (each f xs) (xs.flatMap requests) := by
  induction xs with
  | nil => exact asks_pure []
  | cons x xs ih =>
    rw [List.forall_mem_cons] at h
    have asks := h.1.bind fun y _ => (ih h.2).bind fun ys _ => asks_pure (y :: ys)
    rwa [List.append_nil] at asks

/-! ## Running through a list -/

/-- How far a computation on the elements of a list came, and what it asked for on the way. -/
inductive Reached (f : α → Fetched β) (xs : List α) : Fetched (List β) → Prop where
  | all {ys} : (∀ x ∈ xs, ∃ y, (f x).result = .ok y) →
      Reached f xs ⟨xs.flatMap fun x => (f x).downloads, .ok ys⟩
  | failed {before x behind e} : xs = before ++ x :: behind →
      (∀ earlier ∈ before, ∃ y, (f earlier).result = .ok y) → (f x).result = .error e →
      Reached f xs ⟨(before.flatMap fun x => (f x).downloads) ++ (f x).downloads, .error e⟩

theorem each_cons (f : α → Fetched β) (x : α) (xs : List α) :
    each f (x :: xs) = f x >>= fun y => each f xs >>= fun ys => pure (y :: ys) :=
  rfl

theorem bind_of_ok {x : Fetched α} {a : α} (h : x.result = .ok a) (f : α → Fetched β) :
    x >>= f = ⟨x.downloads ++ (f a).downloads, (f a).result⟩ := by
  obtain ⟨downloads, result⟩ := x
  cases h
  rfl

theorem bind_of_error {x : Fetched α} {e : ScenarioError} (h : x.result = .error e)
    (f : α → Fetched β) : x >>= f = ⟨x.downloads, .error e⟩ := by
  obtain ⟨downloads, result⟩ := x
  cases h
  rfl

theorem reached_each (f : α → Fetched β) (xs : List α) : Reached f xs (each f xs) := by
  induction xs with
  | nil => exact .all (List.forall_mem_nil _)
  | cons x xs ih =>
    rw [each_cons]
    cases hx : (f x).result with
    | error e =>
      rw [bind_of_error hx]
      exact .failed (List.nil_append (x :: xs)).symm (List.forall_mem_nil _) hx
    | ok y =>
      rw [bind_of_ok hx]
      generalize each f xs = rest at ih
      cases ih with
      | @all ys hs =>
        have reached : Reached f (x :: xs) ⟨_, .ok (y :: ys)⟩ :=
          .all (List.forall_mem_cons.2 ⟨⟨y, hx⟩, hs⟩)
        rw [List.flatMap_cons, ← List.append_nil (xs.flatMap _)] at reached
        exact reached
      | @failed before _ behind e hs earlier hf =>
        have reached := Reached.failed (f := f) (congrArg (x :: ·) hs)
          (List.forall_mem_cons.2 ⟨⟨y, hx⟩, earlier⟩) hf
        rw [List.flatMap_cons, List.append_assoc] at reached
        exact reached

end Rollout.Fetched
