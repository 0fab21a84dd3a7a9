import Rollout.Path

/-!
# Folders and absolute paths

A file has a folder that is not the empty path, and whatever is not the empty path leads from the root
once the current folder is put in front of it.
-/

namespace Rollout.Path

open Text

/-! ## Joining -/

theorem prefix_append {base : List Char} (h : base ≠ []) (relative : List Char) :
    base <+: append base relative := by
  unfold append
  split
  · rename_i hb
    exact absurd (List.getLast?_eq_none_iff.1 hb) h
  · exact List.prefix_append _ _
  · exact List.prefix_append _ _

theorem join_ne_empty {base : String} (h : base ≠ "") (path : String) : join base path ≠ "" := by
  unfold join
  split
  · rintro rfl
    rename_i hs
    cases hs
  · intro he
    rw [String.ofList_eq_empty_iff] at he
    have hb := prefix_append (mt String.toList_eq_nil_iff.1 h) path.toList
    rw [he, List.prefix_nil] at hb
    exact h (String.toList_eq_nil_iff.1 hb)

theorem folder_ne_empty (path : String) : folder path ≠ "" := by
  unfold folder
  simp only
  split
  · decide
  · split
    · decide
    · rename_i hp
      rw [ne_eq, String.ofList_eq_empty_iff]
      simpa using hp

/-! ## From the root -/

theorem absoluteHead_starts {cwd : List Char} (root : ['/'] <+: cwd) (path : List Char) :
    ['/'] <+: absoluteHead cwd path := by
  unfold absoluteHead
  split
  · exact List.prefix_rfl
  · exact List.prefix_append ['/'] ['/']
  · exact List.prefix_rfl
  · exact root

theorem absolute?_ne_none {path : String} (h : path ≠ "") (cwd : String) : absolute? cwd path ≠ none := by
  unfold absolute?
  split
  · rename_i hs
    exact absurd (String.toList_eq_nil_iff.1 hs) h
  · nofun

theorem exists_absolute {cwd path : String} (root : startsWith cwd "/" = true) (h : path ≠ "") :
    ∃ rooted, absolute? cwd path = some rooted ∧ startsWith rooted "/" = true := by
  have hs : path.toList ≠ [] := mt String.toList_eq_nil_iff.1 h
  rw [startsWith_iff] at root
  have head := absoluteHead_starts root path.toList
  have extends_head {s : List Char} (hp : ['/'] <+: s) (relative : List Char) :
      ['/'] <+: append s relative := by
    refine hp.trans (prefix_append ?_ relative)
    rintro rfl
    simp at hp
  unfold absolute?
  split
  · contradiction
  · refine ⟨_, rfl, startsWith_iff.2 ?_⟩
    change ['/'] <+: (String.ofList _).toList
    rw [String.toList_ofList]
    have body : ['/'] <+: if ((components path.toList).filter (!isIdle ·)).isEmpty then
        absoluteHead cwd.toList path.toList
      else append (absoluteHead cwd.toList path.toList)
        (joined ((components path.toList).filter (!isIdle ·))) := by
      split
      · exact head
      · exact extends_head head _
    split
    · exact extends_head body []
    · exact body

end Rollout.Path
