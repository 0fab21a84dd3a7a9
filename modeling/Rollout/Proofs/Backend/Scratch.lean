import Mathlib.Data.Nat.Digits.Defs
import Rollout.Backend.Scratch
import Rollout.Proofs.File.Tree

/-!
# Files in a scratch folder

What a scenario writes into the scratch folder comes behind everything that is there, and is what belongs
to the scenario there. A cleanup takes away what belonged to it before, as far as it can be reached, and
nothing else.
-/

namespace Rollout

open Text

namespace Scratch

variable {s : Scratch} {files cleaned : FileTree} {folder : List String} {suffix extension id : String}

/-! ## Names -/

theorem hex_of_mem_toDigits {n : Nat} {c : Char} (h : c ∈ Nat.toDigits 16 n) :
    c ∈ "0123456789abcdef".toList := by
  have digit (k : Nat) (hk : k < 16) : k.digitChar ∈ "0123456789abcdef".toList := by
    revert k
    decide
  induction n using Nat.strongRecOn with
  | ind n ih =>
    rw [Nat.toDigits_eq_if (by decide)] at h
    split at h
    · rename_i hn
      rw [List.mem_singleton.1 h]
      exact digit n hn
    · rename_i hn
      rcases List.mem_append.1 h with h | h
      · exact ih (n / 16) (by omega) h
      · rw [List.mem_singleton.1 h]
        exact digit (n % 16) (Nat.mod_lt n (by decide))

/-- An identifier is written in hexadecimal digits. -/
theorem hex_identifier (n : Nat) : ∀ c ∈ (identifier n).toList, c ∈ "0123456789abcdef".toList := by
  intro c hc
  rw [identifier, String.toList_ofList, List.mem_append] at hc
  rcases hc with hc | hc
  · rw [List.eq_of_mem_replicate hc]
    decide
  · exact hex_of_mem_toDigits hc

theorem notMem_of_hex {c : Char} (hex : ∃ n, id = identifier n) (h : c ∉ "0123456789abcdef".toList) :
    c ∉ id.toList := by
  obtain ⟨n, rfl⟩ := hex
  exact mt (hex_identifier n c) h

theorem toList_fileName : (fileName suffix extension id).toList =
    (lead suffix).toList ++ (id.toList ++ (if extension.isEmpty then "" else "." ++ extension).toList) := by
  simp [fileName]

theorem isFileName_fileName (hs : '/' ∉ suffix.toList) (he : '/' ∉ extension.toList)
    (hi : '/' ∉ id.toList) : FileTree.IsFileName (fileName suffix extension id) := by
  have text : (fileName suffix extension id).toList = "rigger-".toList ++
      (suffix.toList ++ "-".toList ++ id.toList ++
        (if extension.isEmpty then "" else "." ++ extension).toList) := by
    simp [toList_fileName, lead]
  have first {name : String} (h : name.toList.head? ≠ some 'r') : fileName suffix extension id ≠ name := by
    rintro rfl
    rw [text] at h
    exact h rfl
  refine ⟨first (by decide), ⟨first (by decide), first (by decide)⟩, ?_⟩
  rw [text]
  split <;> simp [hs, he, hi]

theorem fileName_injective {id' : String} (h : fileName suffix extension id = fileName suffix extension id') :
    id = id' := by
  have hl := congrArg String.toList h
  rw [toList_fileName, toList_fileName] at hl
  exact String.toList_injective (List.append_cancel_right (List.append_cancel_left hl))

/-! ## Writing -/

/-- Whether the system takes the name and the path of a scratch file. -/
def takes (s : Scratch) (suffix extension id : String) : Bool :=
  FileTree.takes (s.pathFor suffix extension id) (fileName suffix extension id)

/-- What a scratch file is in the tree. -/
def entry (folder : List String) (suffix extension id content : String) : List String × FileItem :=
  (folder ++ [fileName suffix extension id], .file content.toUTF8)

theorem write_eq_ok (hl : files.locateFolder s.root = .ok folder)
    (hn : FileTree.IsFileName (fileName suffix extension id)) (ht : s.takes suffix extension id = true)
    (hu : ∀ item, (folder ++ [fileName suffix extension id], item) ∉ files.items) (content : String) :
    s.write files suffix extension id content =
      .ok (files.add [entry folder suffix extension id content], s.pathFor suffix extension id) := by
  rw [takes, pathFor] at ht
  unfold write
  rw [pathFor]
  simp only [FileTree.writeFile_join hl hn ht hu content, entry]

theorem write_eq_error (hl : files.locateFolder s.root = .ok folder)
    (hn : FileTree.IsFileName (fileName suffix extension id)) (ht : s.takes suffix extension id = false)
    (content : String) : ∃ e, s.write files suffix extension id content = .error e := by
  rw [takes, pathFor] at ht
  obtain ⟨e, he⟩ := FileTree.writeFile_join_error hl hn ht content
  refine ⟨.file e, ?_⟩
  unfold write
  rw [pathFor]
  simp only [he]

theorem belongsTo_entry (folder : List String) (suffix extension id content : String) :
    belongsTo folder suffix (entry folder suffix extension id content) = true := by
  have hs : startsWith (fileName suffix extension id) (lead suffix) = true := by
    rw [startsWith_iff, toList_fileName]
    exact List.prefix_append _ _
  simp [belongsTo, entry, FileTree.nameIn?, hs]

/-! ## Cleaning up -/

theorem cleanup_eq_ok {count : Nat} (h : s.cleanup files suffix = .ok (cleaned, count)) :
    ∃ folder, files.locateFolder s.root = .ok folder ∧ cleaned = { files with
      items := files.items.filter fun entry =>
        !(belongsTo folder suffix entry && s.reaches entry.1) } := by
  unfold cleanup at h
  split at h
  · cases h
  · rename_i folder hl
    cases h
    exact ⟨folder, hl, rfl⟩

theorem exists_cleanup (hl : files.locateFolder s.root = .ok folder) (suffix : String) :
    ∃ cleaned count, s.cleanup files suffix = .ok (cleaned, count) := by
  rw [cleanup, hl]
  exact ⟨_, _, rfl⟩

/-- Where files are taken away, folders stay. -/
theorem lookup_filter_folder {keeps : List String × FileItem → Bool}
    (hk : ∀ place, keeps (place, .folder) = true) {items : List (List String × FileItem)}
    {place : List String} (h : items.lookup place = some .folder) :
    (items.filter keeps).lookup place = some .folder := by
  induction items with
  | nil => cases h
  | cons entry items ih =>
    obtain ⟨other, item⟩ := entry
    by_cases ho : place = other
    · subst ho
      rw [List.lookup_cons_self, Option.some.injEq] at h
      rw [h, List.filter_cons_of_pos (hk place), List.lookup_cons_self]
    · rw [List.lookup_cons, beq_false_of_ne ho] at h
      rw [List.filter_cons]
      split
      · rw [List.lookup_cons, beq_false_of_ne ho]
        exact ih h
      · exact ih h

theorem locateFolder_of_cleanup {count : Nat} (h : s.cleanup files suffix = .ok (cleaned, count))
    (hl : files.locateFolder s.root = .ok folder) : cleaned.locateFolder s.root = .ok folder := by
  obtain ⟨_, -, rfl⟩ := cleanup_eq_ok h
  refine FileTree.locateFolder_mono (t := files) rfl ?_ hl
  intro place hi
  unfold FileTree.item? at hi ⊢
  split
  · rfl
  · rename_i hp
    rw [if_neg hp] at hi
    exact lookup_filter_folder (fun _ => rfl) hi

/-- Whether a cleanup can reach everything that it looks for. -/
def Removable (s : Scratch) (files : FileTree) (folder : List String) (suffix : String) : Prop :=
  ∀ entry ∈ files.items, belongsTo folder suffix entry = true → s.reaches entry.1 = true

theorem cleanup_eq_of_removable (hl : files.locateFolder s.root = .ok folder)
    (hr : s.Removable files folder suffix) :
    s.cleanup files suffix = .ok
      ({ files with items := files.items.filter fun entry => !belongsTo folder suffix entry },
        (files.items.filter (belongsTo folder suffix)).length) := by
  have removed : ∀ entry ∈ files.items,
      (belongsTo folder suffix entry && s.reaches entry.1) = belongsTo folder suffix entry := by
    intro entry hm
    cases hb : belongsTo folder suffix entry with
    | true => rw [hr entry hm hb]; rfl
    | false => rfl
  rw [cleanup, hl]
  simp only
  rw [List.filter_congr removed, List.filter_congr fun entry hm => congrArg (!·) (removed entry hm)]

/-- What is left by a cleanup that reaches everything it looks for. -/
structure Cleaned (files cleaned : FileTree) (root : String) (folder : List String) (suffix : String) :
    Prop where
  located : cleaned.locateFolder root = .ok folder
  cwd : cleaned.cwd = files.cwd
  kept : cleaned.items = files.items.filter fun entry => !belongsTo folder suffix entry

theorem cleaned_of_cleanup {count : Nat} (h : s.cleanup files suffix = .ok (cleaned, count))
    (hl : files.locateFolder s.root = .ok folder) (hr : s.Removable files folder suffix) :
    Cleaned files cleaned s.root folder suffix := by
  have located := locateFolder_of_cleanup h hl
  rw [cleanup_eq_of_removable hl hr] at h
  cases h
  exact ⟨located, rfl, rfl⟩

theorem Cleaned.filter_eq_nil {root : String} (h : Cleaned files cleaned root folder suffix) :
    cleaned.items.filter (belongsTo folder suffix) = [] := by
  rw [h.kept, List.filter_filter]
  simp

end Scratch

end Rollout
