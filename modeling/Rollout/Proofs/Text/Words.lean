import Rollout.Proofs.Text.Matching

/-!
# Words

The words of a text are what stands between its blanks. A scan that looks at one word and at the next is
told by going through the text word by word (`worded_words`).
-/

namespace Rollout.Text

def words (s : List Char) : List (List Char) :=
  (s.splitOnP isBlank).filter (· ≠ [])

structure IsWord (w : List Char) : Prop where
  ne_nil : w ≠ []
  notBlank : ∀ c ∈ w, isBlank c = false

/-- A text and its words, told from one to the next. -/
inductive Worded : List Char → List (List Char) → Prop where
  | nil : Worded [] []
  | blank {b s ws} : isBlank b = true → Worded s ws → Worded (b :: s) ws
  | last {w} : IsWord w → Worded w [w]
  | word {w b s ws} : IsWord w → isBlank b = true → Worded s ws → Worded (w ++ b :: s) (w :: ws)

variable {b : Char} {s w : List Char} {ws : List (List Char)}

theorem words_blank (hb : isBlank b = true) (s : List Char) : words (b :: s) = words s := by
  rw [words, List.splitOnP_cons_eq_if_modifyHead, if_pos hb, List.filter_cons_of_neg (by simp), words]

theorem words_last (h : IsWord w) : words w = [w] := by
  rw [words, List.splitOnP_eq_singleton h.notBlank]
  exact List.filter_cons_of_pos (decide_eq_true h.ne_nil)

theorem words_word (h : IsWord w) (hb : isBlank b = true) (s : List Char) :
    words (w ++ b :: s) = w :: words s := by
  rw [words, List.splitOnP_append_cons_of_forall_mem h.notBlank b hb]
  exact List.filter_cons_of_pos (decide_eq_true h.ne_nil)

/-! ## From word to word -/

theorem isWord_takeWhile {c : Char} (hc : isBlank c = false) (s : List Char) :
    IsWord ((c :: s).takeWhile (!isBlank ·)) := by
  refine ⟨?_, fun a ha => by simpa using List.mem_takeWhile_imp ha⟩
  rw [List.takeWhile_cons, hc]
  exact List.cons_ne_nil _ _

theorem worded_words : ∀ s : List Char, Worded s (words s)
  | [] => .nil
  | c :: s => by
    cases hc : isBlank c with
    | true =>
      rw [words_blank hc]
      exact .blank hc (worded_words s)
    | false =>
      have word := isWord_takeWhile hc s
      have parts := List.takeWhile_append_dropWhile (p := (!isBlank ·)) (l := c :: s)
      cases hr : (c :: s).dropWhile (!isBlank ·) with
      | nil =>
        rw [hr, List.append_nil] at parts
        rw [parts] at word
        rw [words_last word]
        exact .last word
      | cons b rest =>
        have hb : isBlank b = true := by
          have h := List.head?_dropWhile_not (!isBlank ·) (c :: s)
          rw [hr] at h
          simpa using h
        have shorter : rest.length ≤ s.length := by
          have hl := congrArg List.length parts
          rw [hr, List.length_append, List.length_cons, List.length_cons] at hl
          omega
        rw [← parts, hr, words_word word hb]
        exact .word word hb (worded_words rest)
termination_by s => s.length

theorem Worded.isWord (h : Worded s ws) : ∀ w ∈ ws, IsWord w := by
  induction h with
  | nil => exact List.forall_mem_nil _
  | blank _ _ ih => exact ih
  | last word => exact List.forall_mem_singleton.2 word
  | word word _ _ ih => exact List.forall_mem_cons.2 ⟨word, ih⟩

/-- What stands behind the blanks at the start of a text is its first word. -/
theorem Worded.takeWhile_trimStart (h : Worded s ws) :
    (trimStart s).takeWhile (!isBlank ·) = ws.head?.getD [] := by
  have first {w rest : List Char} (word : IsWord w) (hr : ∀ c ∈ rest.head?, isBlank c = true) :
      (trimStart (w ++ rest)).takeWhile (!isBlank ·) = w := by
    obtain ⟨c, w, rfl⟩ := List.exists_cons_of_ne_nil word.ne_nil
    have hc : isBlank c = false := word.notBlank c List.mem_cons_self
    rw [trimStart, List.cons_append, List.dropWhile_cons_of_neg (by simp [hc]), ← List.cons_append]
    exact (takeWhile_append_of_all (by simpa using word.notBlank) (by simpa using hr)).1
  induction h with
  | nil => rfl
  | @blank b s _ hb _ ih => rwa [trimStart, List.dropWhile_cons_of_pos hb]
  | @last w word =>
    have alone : ∀ c ∈ ([] : List Char).head?, isBlank c = true := by
      rintro c ⟨⟩
    simpa using first word alone
  | @word w b s _ word hb _ _ =>
    refine first word ?_
    rintro c ⟨⟩
    exact hb

end Rollout.Text
