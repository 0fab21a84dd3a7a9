import Rollout.Action.Compile
import Rollout.Proofs.Text.Matching

/-!
# The flag that names a container

A text has a `--name` flag where one stands at its start or behind a blank, with a value behind it.
The scan finds one exactly if there is one (`nameFlag?_isSome_iff`), and it finds the first
(`nameFlag?_eq_some_iff`).
-/

namespace Rollout

open Text

/-- The texts that start with a flag of a value, which reaches to the next blank. -/
def StartsNameFlag (s value : List Char) : Prop :=
  ∃ blanks rest, s = "--name".toList ++ blanks ++ value ++ rest ∧
    blanks ≠ [] ∧ (∀ c ∈ blanks, isBlank c = true) ∧
    value ≠ [] ∧ (∀ c ∈ value, isBlank c = false) ∧ ∀ c ∈ rest.head?, isBlank c = true

def HasNameFlag (s : List Char) : Prop :=
  ∃ before rest value, s = before ++ rest ∧ (∀ c ∈ before.getLast?, isBlank c = true) ∧
    StartsNameFlag rest value

/-- Whether a value is that of the first flag in a text. -/
def FirstNameFlag (s value : List Char) : Prop :=
  ∃ before rest, s = before ++ rest ∧ (∀ c ∈ before.getLast?, isBlank c = true) ∧
    StartsNameFlag rest value ∧ ∀ before' rest' value', s = before' ++ rest' →
      (∀ c ∈ before'.getLast?, isBlank c = true) → StartsNameFlag rest' value' →
        before.length ≤ before'.length

/-! ## A flag at one place -/

def nameFlagAt? (s : List Char) : Option (List Char) :=
  match strip? "--name".toList s with
  | some (b :: rest) =>
    let value := (trimStart rest).takeWhile (!isBlank ·)
    if isBlank b && !value.isEmpty then some value else none
  | _ => none

theorem nameFlag?_cons (atStart : Bool) (c : Char) (cs : List Char) :
    nameFlag? atStart (c :: cs) =
      (if atStart then nameFlagAt? (c :: cs) else none).or (nameFlag? (isBlank c) cs) :=
  rfl

theorem startsNameFlag_of_nameFlagAt? {s value : List Char} (h : nameFlagAt? s = some value) :
    StartsNameFlag s value := by
  unfold nameFlagAt? at h
  split at h
  · rename_i b rest hs
    simp only [Option.ite_none_right_eq_some, Bool.and_eq_true, Option.some.injEq] at h
    obtain ⟨⟨hb, hv⟩, rfl⟩ := h
    refine ⟨b :: rest.takeWhile isBlank, (trimStart rest).dropWhile (!isBlank ·), ?_,
      List.cons_ne_nil _ _, ?_, ?_, ?_, ?_⟩
    · rw [strip?_eq_some_iff.1 hs, trimStart, List.append_assoc _ (List.takeWhile _ _),
        List.takeWhile_append_dropWhile, List.append_assoc, List.cons_append,
        List.takeWhile_append_dropWhile]
    · exact List.forall_mem_cons.2 ⟨hb, fun c hc => List.mem_takeWhile_imp hc⟩
    · simpa using hv
    · intro c hc
      simpa using List.mem_takeWhile_imp hc
    · intro c hc
      simpa [Option.mem_def.1 hc] using List.head?_dropWhile_not (!isBlank ·) (trimStart rest)
  · cases h

theorem nameFlagAt?_of_startsNameFlag {s value : List Char} (h : StartsNameFlag s value) :
    nameFlagAt? s = some value := by
  obtain ⟨blanks, rest, rfl, hne, hb, hvne, hv, hr⟩ := h
  obtain ⟨b, blanks, rfl⟩ := List.exists_cons_of_ne_nil hne
  rw [List.forall_mem_cons] at hb
  have first : ∀ c ∈ (value ++ rest).head?, isBlank c = false := by
    obtain ⟨a, value, rfl⟩ := List.exists_cons_of_ne_nil hvne
    rintro c ⟨⟩
    exact hv a List.mem_cons_self
  have trimmed : trimStart (blanks ++ (value ++ rest)) = value ++ rest :=
    (takeWhile_append_of_all hb.2 first).2
  have taken : (value ++ rest).takeWhile (!isBlank ·) = value :=
    (takeWhile_append_of_all (by simpa using hv) (by simpa using hr)).1
  have stripped : strip? "--name".toList ("--name".toList ++ (b :: blanks) ++ value ++ rest) =
      some (b :: (blanks ++ (value ++ rest))) := by
    rw [List.append_assoc, List.append_assoc, strip?_append_self]
    rfl
  simp only [nameFlagAt?, stripped, trimmed, taken]
  simp [hb.1, hvne]

/-! ## The first flag -/

theorem startsNameFlag_ne_nil {s value : List Char} (h : StartsNameFlag s value) : s ≠ [] := by
  obtain ⟨blanks, rest, rfl, -⟩ := h
  simp

/-- Whether a flag may stand behind a text, which itself stands at a start or not. -/
def opensFlag (atStart : Bool) (before : List Char) : Bool :=
  (before.getLast?.map isBlank).getD atStart

theorem opensFlag_cons (atStart : Bool) (c : Char) (before : List Char) :
    opensFlag atStart (c :: before) = opensFlag (isBlank c) before := by
  cases before with
  | nil => rfl
  | cons d before =>
    have last := List.getLast?_eq_some_getLast (List.cons_ne_nil d before)
    simp only [opensFlag, List.getLast?_cons_cons, last, Option.map_some, Option.getD_some]

theorem nameFlag?_sound {atStart : Bool} {s value : List Char} (h : nameFlag? atStart s = some value) :
    ∃ before rest, s = before ++ rest ∧ opensFlag atStart before = true ∧
      StartsNameFlag rest value ∧ ∀ before' rest' value', s = before' ++ rest' →
        opensFlag atStart before' = true → StartsNameFlag rest' value' →
          before.length ≤ before'.length := by
  induction s generalizing atStart with
  | nil => cases h
  | cons c cs ih =>
    rw [nameFlag?_cons, Option.or_eq_some_iff] at h
    rcases h with h | ⟨hn, h⟩
    · rw [Option.ite_none_right_eq_some] at h
      exact ⟨[], c :: cs, rfl, h.1, startsNameFlag_of_nameFlagAt? h.2, fun _ _ _ _ _ _ => Nat.zero_le _⟩
    · obtain ⟨before, rest, rfl, ho, hs, first⟩ := ih h
      refine ⟨c :: before, rest, rfl, by rw [opensFlag_cons, ho], hs, ?_⟩
      intro before' rest' value' he ho' hs'
      cases before' with
      | nil =>
        -- A flag at the start would have been found there.
        rw [List.nil_append] at he
        have start : atStart = true := ho'
        rw [if_pos start, he, nameFlagAt?_of_startsNameFlag hs'] at hn
        cases hn
      | cons d before' =>
        rw [List.cons_append, List.cons.injEq] at he
        obtain ⟨rfl, he⟩ := he
        rw [opensFlag_cons] at ho'
        exact Nat.succ_le_succ (first before' rest' value' he ho' hs')

theorem nameFlag?_complete {atStart : Bool} {before rest value : List Char}
    (ho : opensFlag atStart before = true) (hs : StartsNameFlag rest value) :
    (nameFlag? atStart (before ++ rest)).isSome = true := by
  induction before generalizing atStart with
  | nil =>
    obtain ⟨c, cs, rfl⟩ := List.exists_cons_of_ne_nil (startsNameFlag_ne_nil hs)
    have start : atStart = true := ho
    rw [List.nil_append, nameFlag?_cons, if_pos start, nameFlagAt?_of_startsNameFlag hs]
    rfl
  | cons c before ih =>
    rw [opensFlag_cons] at ho
    rw [List.cons_append, nameFlag?_cons, Option.isSome_or, ih ho, Bool.or_true]

theorem opensFlag_true_iff {before : List Char} :
    opensFlag true before = true ↔ ∀ c ∈ before.getLast?, isBlank c = true := by
  unfold opensFlag
  cases before.getLast? <;> simp

theorem nameFlag?_isSome_iff {s : List Char} :
    (nameFlag? true s).isSome = true ↔ HasNameFlag s := by
  constructor
  · intro h
    obtain ⟨value, hv⟩ := Option.isSome_iff_exists.1 h
    obtain ⟨before, rest, rfl, ho, hs, -⟩ := nameFlag?_sound hv
    exact ⟨before, rest, value, rfl, opensFlag_true_iff.1 ho, hs⟩
  · rintro ⟨before, rest, value, rfl, ho, hs⟩
    exact nameFlag?_complete (opensFlag_true_iff.2 ho) hs

theorem nameFlag?_eq_none_iff {s : List Char} : nameFlag? true s = none ↔ ¬ HasNameFlag s := by
  rw [← nameFlag?_isSome_iff, Option.not_isSome_iff_eq_none]

theorem StartsNameFlag.unique {s value value' : List Char} (h : StartsNameFlag s value)
    (h' : StartsNameFlag s value') : value = value' :=
  Option.some.inj ((nameFlagAt?_of_startsNameFlag h).symm.trans (nameFlagAt?_of_startsNameFlag h'))

theorem nameFlag?_eq_some_iff {s value : List Char} :
    nameFlag? true s = some value ↔ FirstNameFlag s value := by
  have sound {value : List Char} (h : nameFlag? true s = some value) : FirstNameFlag s value := by
    obtain ⟨before, rest, hs, ho, hv, first⟩ := nameFlag?_sound h
    exact ⟨before, rest, hs, opensFlag_true_iff.1 ho, hv, fun before' rest' value' he ho' =>
      first before' rest' value' he (opensFlag_true_iff.2 ho')⟩
  refine ⟨sound, ?_⟩
  rintro ⟨before, rest, hs, ho, hv, first⟩
  obtain ⟨value', hf⟩ := Option.isSome_iff_exists.1 (nameFlag?_isSome_iff.2 ⟨before, rest, value, hs, ho, hv⟩)
  obtain ⟨before', rest', hs', ho', hv', first'⟩ := sound hf
  have length : before.length = before'.length :=
    Nat.le_antisymm (first _ _ _ hs' ho' hv') (first' _ _ _ hs ho hv)
  obtain ⟨-, rfl⟩ := List.append_inj (hs.symm.trans hs') length
  rw [hf, hv.unique hv']

theorem FirstNameFlag.notBlank {s value : List Char} (h : FirstNameFlag s value) :
    ∀ c ∈ value, isBlank c = false := by
  obtain ⟨_, _, -, -, ⟨_, _, -, -, -, -, hv, -⟩, -⟩ := h
  exact hv

theorem nameFlag?_ne_nil {s value : List Char} (h : nameFlag? true s = some value) : value ≠ [] := by
  obtain ⟨_, _, -, -, ⟨_, _, -, -, -, hv, -⟩, -⟩ := nameFlag?_eq_some_iff.1 h
  exact hv

end Rollout
