import Rollout.Proofs.Compile.NameFlag
import Rollout.Proofs.Text.Words

/-!
# The name flag by words

Looking for a `--name` flag in a text is looking through its words: the first word that is the flag and
has another one behind it names the container, whatever blanks stand between (`nameFlag?_words`). From
this comes what finalizing leaves of a container, also where it fails (`finalizeInPlace_words`).
-/

namespace Rollout

open Text

/-- The word behind the first of some words that is the flag and has one behind it. -/
def wordBehind? (flag : List Char) : List (List Char) → Option (List Char)
  | w :: value :: ws => if w = flag then some value else wordBehind? flag (value :: ws)
  | _ => none

/-- The first place among some words where the flag has a word behind it. -/
structure FirstFlag (flag : List Char) (ws : List (List Char)) (i : Nat) (value : List Char) :
    Prop where
  here : ws[i]? = some flag
  behind : ws[i + 1]? = some value
  first : ∀ j < i, ¬ (ws[j]? = some flag ∧ (ws[j + 1]?).isSome)

variable {flag value s w : List Char} {ws : List (List Char)}

theorem exists_firstFlag (h : wordBehind? flag ws = some value) : ∃ i, FirstFlag flag ws i value := by
  induction ws with
  | nil => cases h
  | cons w ws ih =>
    cases ws with
    | nil => cases h
    | cons v ws =>
      rw [wordBehind?] at h
      split at h
      · rename_i hw
        exact ⟨0, congrArg some hw, h, fun j hj => absurd hj (Nat.not_lt_zero j)⟩
      · rename_i hw
        obtain ⟨i, hf⟩ := ih h
        refine ⟨i + 1, hf.here, hf.behind, fun j hj => ?_⟩
        cases j with
        | zero => exact fun hj => hw (Option.some.inj hj.1)
        | succ j => exact hf.first j (Nat.lt_of_succ_lt_succ hj)

theorem no_word_behind (h : wordBehind? flag ws = none) (i : Nat) (hi : ws[i]? = some flag) :
    ws[i + 1]? = none := by
  induction ws generalizing i with
  | nil => rfl
  | cons w ws ih =>
    cases ws with
    | nil => rfl
    | cons v ws =>
      rw [wordBehind?] at h
      split at h
      · cases h
      · rename_i hw
        cases i with
        | zero => exact absurd (Option.some.inj hi) hw
        | succ i => exact ih h i hi

/-! ## Scanning -/

/-- Inside a word no flag starts, so the scan goes on behind the blank at its end. -/
theorem nameFlag?_inside {b : Char} (hw : ∀ c ∈ w, isBlank c = false) (hb : isBlank b = true)
    (s : List Char) : nameFlag? false (w ++ b :: s) = nameFlag? true s := by
  induction w with
  | nil => rw [List.nil_append, nameFlag?_cons, hb]; rfl
  | cons c w ih =>
    rw [List.forall_mem_cons] at hw
    rw [List.cons_append, nameFlag?_cons, hw.1]
    exact ih hw.2

theorem nameFlagAt?_name {b : Char} (hb : isBlank b = true) (h : Worded s ws) :
    nameFlagAt? ("--name".toList ++ b :: s) = ws.head? := by
  simp only [nameFlagAt?, strip?_append_self, h.takeWhile_trimStart, hb, Bool.true_and]
  cases ws with
  | nil => rfl
  | cons v ws =>
    have hv := (h.isWord v List.mem_cons_self).ne_nil
    simp [hv]

/-- A flag is a word of its own. -/
theorem nameFlagAt?_of_ne {b : Char} (word : IsWord w) (hb : isBlank b = true)
    (hn : w ≠ "--name".toList) (s : List Char) : nameFlagAt? (w ++ b :: s) = none := by
  rw [Option.eq_none_iff_forall_ne_some]
  intro value hv
  obtain ⟨blanks, rest, hs, hne, hbs, -⟩ := startsNameFlag_of_nameFlagAt? hv
  obtain ⟨d, blanks, rfl⟩ := List.exists_cons_of_ne_nil hne
  rw [List.forall_mem_cons] at hbs
  -- Both readings of the text end their first word at its first blank.
  have first {w : List Char} (hw : ∀ c ∈ w, isBlank c = false) {b : Char} (hb : isBlank b = true)
      (next : List Char) : (w ++ b :: next).takeWhile (!isBlank ·) = w := by
    refine (takeWhile_append_of_all (by simpa using hw) ?_).1
    rintro c ⟨⟩
    simp [hb]
  have flag : ("--name".toList.all fun c => !isBlank c) = true := by decide
  have same := congrArg (List.takeWhile (!isBlank ·)) hs
  rw [List.append_assoc, List.append_assoc, List.cons_append, first word.notBlank hb,
    first (fun c hc => by simpa using List.all_eq_true.1 flag c hc) hbs.1] at same
  exact hn same

theorem nameFlag?_worded (h : Worded s ws) : nameFlag? true s = wordBehind? "--name".toList ws := by
  induction h with
  | nil => rfl
  | @blank b s ws hb _ ih =>
    have dash : isBlank '-' = false := by decide
    have here : nameFlagAt? (b :: s) = none := by
      have hs : strip? "--name".toList (b :: s) = none := if_neg (blank_ne hb dash).symm
      rw [nameFlagAt?, hs]
    rw [nameFlag?_cons, here, hb, ih]
    rfl
  | @last w word =>
    change nameFlag? true w = none
    rw [nameFlag?_eq_none_iff]
    rintro ⟨before, rest, value, rfl, -, blanks, rest', rfl, hne, hb, -⟩
    obtain ⟨b, blanks, rfl⟩ := List.exists_cons_of_ne_nil hne
    have solid := word.notBlank b (by simp)
    rw [hb b List.mem_cons_self] at solid
    cases solid
  | @word w b s ws word hb h ih =>
    obtain ⟨c, w, rfl⟩ := List.exists_cons_of_ne_nil word.ne_nil
    have notBlank := List.forall_mem_cons.1 word.notBlank
    have behind : nameFlag? (isBlank c) (w ++ b :: s) = wordBehind? "--name".toList ws := by
      rw [notBlank.1, nameFlag?_inside notBlank.2 hb, ih]
    rw [List.cons_append, nameFlag?_cons, if_pos rfl, behind, ← List.cons_append]
    by_cases hw : c :: w = "--name".toList
    · rw [hw, nameFlagAt?_name hb h]
      cases ws with
      | nil => rfl
      | cons v ws => rw [wordBehind?, if_pos rfl]; rfl
    · rw [nameFlagAt?_of_ne word hb hw]
      cases ws with
      | nil => rfl
      | cons v ws => rw [wordBehind?, if_neg hw]; rfl

theorem nameFlag?_words (s : List Char) :
    nameFlag? true s = wordBehind? "--name".toList (words s) :=
  nameFlag?_worded (worded_words s)

/-! ## Finalizing -/

namespace Container

/-- The state of a container, or else that of its playbook. -/
def settledState (c : Container) (state : String) : String :=
  if c.state = "" then state else c.state

variable {c : Container} {name state : String}

theorem finalizeInPlace_of_flag {flag : List Char} (h : nameFlag? true c.params.toList = some flag) :
    c.finalizeInPlace name state =
      ({ c with name := String.ofList flag, state := c.settledState state }, .ok ()) := by
  by_cases hs : c.state = "" <;> simp [finalizeInPlace, h, settledState, hs]

theorem finalizeInPlace_of_no_flag (h : nameFlag? true c.params.toList = none) :
    c.finalizeInPlace name state =
      if name = "" then (c, .error (.missingField (.containerName c.params)))
      else ({ params := "--name " ++ name ++ " " ++ c.params, name, state := c.settledState state },
        .ok ()) := by
  by_cases hs : c.state = "" <;> simp [finalizeInPlace, h, settledState, hs]

theorem finalize_eq_inPlace (c : Container) (name state : String) :
    c.finalize name state =
      (c.finalizeInPlace name state).2.map fun _ => (c.finalizeInPlace name state).1 := by
  cases h : nameFlag? true c.params.toList with
  | some flag =>
    rw [finalizeInPlace_of_flag h]
    simp [finalize, h, settledState, Except.map]
  | none =>
    rw [finalizeInPlace_of_no_flag h]
    by_cases hn : name = "" <;> simp [finalize, h, hn, settledState, Except.map]

/-- The word behind the first flag among a container's parameters names it, and they stay as they are.
Where no flag has a word behind it the given name is put in front of them as one; if none is given,
finalizing fails and changes nothing. -/
theorem finalizeInPlace_words (c : Container) (name state : String) :
    (c.finalize name state =
      (c.finalizeInPlace name state).2.map fun _ => (c.finalizeInPlace name state).1) ∧
    ((∃ i value, FirstFlag "--name".toList (words c.params.toList) i value ∧
        c.finalizeInPlace name state =
          ({ c with name := String.ofList value, state := c.settledState state }, .ok ())) ∨
      (∀ i, (words c.params.toList)[i]? = some "--name".toList →
          (words c.params.toList)[i + 1]? = none) ∧
        c.finalizeInPlace name state =
          if name = "" then (c, .error (.missingField (.containerName c.params)))
          else ({ params := "--name " ++ name ++ " " ++ c.params, name, state := c.settledState state },
            .ok ())) := by
  refine ⟨finalize_eq_inPlace c name state, ?_⟩
  have scan := nameFlag?_words c.params.toList
  cases h : nameFlag? true c.params.toList with
  | some value =>
    obtain ⟨i, hf⟩ := exists_firstFlag (scan.symm.trans h)
    exact .inl ⟨i, value, hf, finalizeInPlace_of_flag h⟩
  | none => exact .inr ⟨no_word_behind (scan.symm.trans h), finalizeInPlace_of_no_flag h⟩

example : (finalizeInPlace { params := "-e X=--name --name --name a" } "web" "running").1.name =
    "--name" := by
  decide +kernel

end Container

end Rollout
