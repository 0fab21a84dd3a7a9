import Rollout.File.Tree
import Rollout.Proofs.Outcome
import Rollout.Proofs.Path
import Rollout.Proofs.Text.Matching

/-!
# Files in a tree

A walk passes folders only, so that it leads to the same place when files come into a tree or go out of
it. What is written under a new name in a folder stands behind everything else, which stays
(`writeFile_join`).
-/

namespace Rollout

open Text

/-! ## Components -/

namespace Path

theorem components_ne_nil (s : List Char) : components s ≠ [] := by
  unfold components
  split
  · nofun
  · nofun
  · split <;> nofun

theorem components_append_slash (s t : List Char) :
    components (s ++ '/' :: t) = components s ++ components t := by
  induction s with
  | nil => rfl
  | cons c s ih =>
    obtain ⟨first, rest, hs⟩ := List.exists_cons_of_ne_nil (components_ne_nil s)
    by_cases hc : c = '/'
    · rw [hc, List.cons_append, components, components, ih, List.cons_append]
    · rw [List.cons_append, components, components, ih, hs]
      · rfl
      · exact fun he => hc he
      · exact fun he => hc he

theorem components_of_notMem {s : List Char} (h : '/' ∉ s) : components s = [s] := by
  induction s with
  | nil => rfl
  | cons c s ih =>
    rw [List.mem_cons, not_or] at h
    rw [components, ih h.2]
    exact fun he => h.1 he.symm

/-- A name in a folder stands behind the folder's path and at most one slash. -/
theorem append_name (base name : List Char) (h : base ≠ []) :
    (∃ front, base = front ++ ['/'] ∧ append base name = front ++ '/' :: name) ∨
      append base name = base ++ '/' :: name := by
  unfold append
  split
  · rename_i hb
    exact absurd (List.getLast?_eq_none_iff.1 hb) h
  · rename_i hb
    obtain ⟨front, rfl⟩ := List.getLast?_eq_some_iff.1 hb
    exact .inl ⟨front, rfl, by simp⟩
  · exact .inr rfl

theorem append_eq (base relative : List Char) :
    append base relative =
      base ++ if base = [] ∨ base.getLast? = some '/' then relative else '/' :: relative := by
  unfold append
  split
  · rename_i hb
    rw [List.getLast?_eq_none_iff.1 hb]
    simp
  · rename_i hb
    rw [if_pos (.inr hb)]
  · rename_i c hc hb
    have hne : base ≠ [] := fun he => by simp [he] at hb
    rw [if_neg]
    rintro (he | he)
    · exact hne he
    · exact hc (Option.some.inj (hb.symm.trans he))

theorem suffix_append (base relative : List Char) : relative <:+ append base relative := by
  rw [append_eq]
  split
  · exact List.suffix_append base relative
  · exact (List.suffix_cons '/' relative).trans (List.suffix_append base _)

theorem append_append {middle : List Char} (h : middle ≠ []) (base name : List Char) :
    append base (append middle name) = append (append base middle) name := by
  have last (front : List Char) : (front ++ middle).getLast? = middle.getLast? :=
    List.getLast?_append_of_ne_nil _ h
  rw [append_eq base, append_eq base, append_eq middle, append_eq _ name]
  split
  · simp [last, h]
  · simp [h, List.getLast?_cons_of_ne_nil h]

theorem toList_join {base path : String} (h : startsWith path "/" = false) :
    (join base path).toList = append base.toList path.toList := by
  rw [join, h, if_neg Bool.false_ne_true, String.toList_ofList]

theorem startsWith_slash_of_notMem {name : String} (h : '/' ∉ name.toList) :
    startsWith name "/" = false := by
  rw [← Bool.not_eq_true, startsWith_iff]
  rintro ⟨rest, hr⟩
  exact h (by rw [← hr]; exact List.mem_cons_self)

theorem join_ne_empty_of_path {path : String} (h : path ≠ "") (base : String) : join base path ≠ "" := by
  unfold join
  split
  · exact h
  · rw [ne_eq, String.ofList_eq_empty_iff, append_eq]
    intro he
    have hp : path.toList ≠ [] := mt String.toList_eq_nil_iff.1 h
    split at he <;> simp [hp] at he

/-- A name in a folder is behind the folder, wherever the folder's own path starts. -/
theorem toList_join_join {root name : String} (hr : root ≠ "") (h : '/' ∉ name.toList) (cwd : String) :
    (join cwd (join root name)).toList = append (join cwd root).toList name.toList := by
  have hn := @toList_join root name (startsWith_slash_of_notMem h)
  have hl : root.toList ≠ [] := mt String.toList_eq_nil_iff.1 hr
  by_cases hs : startsWith root "/" = true
  · have hs' : startsWith (join root name) "/" = true := by
      rw [startsWith_iff] at hs ⊢
      rw [hn]
      exact hs.trans (prefix_append hl _)
    rw [join, if_pos hs', hn, join, if_pos hs]
  · have hs' : startsWith (join root name) "/" = false := by
      rw [← Bool.not_eq_true, startsWith_iff, hn]
      rw [startsWith_iff] at hs
      exact fun hp => hs (List.prefix_of_prefix_length_le hp (prefix_append hl _)
        (List.length_pos_iff.2 hl))
    rw [Bool.not_eq_true] at hs
    rw [toList_join hs', hn, toList_join hs, append_append hl]

end Path

namespace FileTree

variable {t : FileTree} {root name : String} {folder place : List String}

/-! ## Walks -/

/-- A tree with more behind what it has. -/
def add (t : FileTree) (entries : List (List String × FileItem)) : FileTree :=
  { t with items := t.items ++ entries }

theorem add_nil (t : FileTree) : t.add [] = t := by
  simp [add]

theorem add_add (t : FileTree) (front back : List (List String × FileItem)) :
    (t.add front).add back = t.add (front ++ back) := by
  simp [add]

/-- Where one component leads from a folder. -/
def step? (place : List String) (part : List Char) : Option (List String) :=
  if Path.isIdle part then some place
  else if part = ['.', '.'] then some place.dropLast
  else if nameLimit < byteLength part then none
  else some (place ++ [String.ofList part])

theorem walk_cons_eq_ok {part : List Char} {rest : List (List Char)} :
    t.walk place (part :: rest) = .ok folder ↔
      t.item? place = some .folder ∧ ∃ next, step? place part = some next ∧
        t.walk next rest = .ok folder := by
  rw [walk, step?]
  cases t.item? place with
  | none => simp
  | some item =>
    cases item with
    | file content => simp
    | folder =>
      simp only
      split
      · simp
      · split
        · simp
        · split <;> simp

theorem walk_append_eq_ok {parts rest : List (List Char)} :
    t.walk place (parts ++ rest) = .ok folder ↔
      ∃ next, t.walk place parts = .ok next ∧ t.walk next rest = .ok folder := by
  rw [walk_append]
  exact bind_eq_ok

theorem walk_mono {t' : FileTree}
    (h : ∀ place, t.item? place = some .folder → t'.item? place = some .folder)
    {parts : List (List Char)} (hw : t.walk place parts = .ok folder) :
    t'.walk place parts = .ok folder := by
  induction parts generalizing place with
  | nil => exact hw
  | cons part parts ih =>
    obtain ⟨hi, next, hs, hn⟩ := walk_cons_eq_ok.1 hw
    exact walk_cons_eq_ok.2 ⟨h place hi, next, hs, ih hn⟩

theorem folderAt_eq_ok : t.folderAt place = .ok folder ↔
    folder = place ∧ t.item? place = some .folder := by
  unfold folderAt
  split
  · rename_i hi
    simp [hi]
  · rename_i hi
    simp [hi]
  · rename_i hi
    simp [hi, eq_comm]

theorem locateFolder_eq_ok : t.locateFolder root = .ok folder ↔
    ∃ parts, t.components root = .ok parts ∧ t.walk [] parts = .ok folder ∧
      t.item? folder = some .folder := by
  unfold locateFolder locate
  simp only [bind_eq_ok, folderAt_eq_ok]
  constructor
  · rintro ⟨_, ⟨parts, hc, hw⟩, rfl, hi⟩
    exact ⟨parts, hc, hw, hi⟩
  · rintro ⟨parts, hc, hw, hi⟩
    exact ⟨folder, ⟨parts, hc, hw⟩, rfl, hi⟩

theorem locateFolder_mono {t' : FileTree} (hd : t'.cwd = t.cwd)
    (h : ∀ place, t.item? place = some .folder → t'.item? place = some .folder)
    (hl : t.locateFolder root = .ok folder) : t'.locateFolder root = .ok folder := by
  obtain ⟨parts, hc, hw, hi⟩ := locateFolder_eq_ok.1 hl
  refine locateFolder_eq_ok.2 ⟨parts, ?_, walk_mono h hw, h folder hi⟩
  rwa [components, hd]

theorem locateFolder_add (hl : t.locateFolder root = .ok folder) (entries : List (List String × FileItem)) :
    (t.add entries).locateFolder root = .ok folder := by
  refine locateFolder_mono (t := t) rfl ?_ hl
  intro place hi
  unfold item? at hi ⊢
  split
  · rfl
  · rename_i hp
    rw [if_neg hp] at hi
    rw [add, List.lookup_append, hi, Option.some_or]

theorem components_eq_ok {path : String} {parts : List (List Char)} :
    t.components path = .ok parts ↔
      path ≠ "" ∧ '\x00' ∉ path.toList ∧ fits path = true ∧
        parts = Path.components (Path.join t.cwd path).toList := by
  unfold components
  split
  · rename_i he
    simp [String.isEmpty_iff.1 he]
  · rename_i he
    rw [String.isEmpty_iff] at he
    split
    · rename_i hz
      simp at hz
      simp [hz]
    · rename_i hz
      have hz : '\x00' ∉ path.toList := by simpa using hz
      split
      · rename_i hf
        rw [Bool.not_eq_true'] at hf
        simp [hf]
      · rename_i hf
        rw [Bool.not_eq_true', Bool.not_eq_false] at hf
        rw [Except.ok.injEq, eq_comm]
        simp [he, hz, hf]

theorem readText_eq_ok {path text : String} (hl : t.locate path = .ok place)
    (hi : t.item? place = some (.file text.toUTF8)) : t.readText path = .ok text := by
  have valid : String.fromUTF8? text.toUTF8 = some text := by
    unfold String.fromUTF8?
    exact dif_pos text.isValidUTF8
  rw [readText, hl]
  simp only [bind, Except.bind, hi, valid]

/-! ## New files -/

/-- A path to a name in a folder leads through the folder's components. -/
theorem exists_components_join (hr : root ≠ "") (hn : '/' ∉ name.toList)
    (hw : t.walk [] (Path.components (Path.join t.cwd root).toList) = .ok folder) :
    ∃ parts, Path.components (Path.join t.cwd (Path.join root name)).toList = parts ++ [name.toList] ∧
      t.walk [] parts = .ok folder := by
  have hne : (Path.join t.cwd root).toList ≠ [] :=
    mt String.toList_eq_nil_iff.1 (Path.join_ne_empty_of_path hr t.cwd)
  have plain : Path.components name.toList = [name.toList] := Path.components_of_notMem hn
  rw [Path.toList_join_join hr hn]
  rcases Path.append_name _ name.toList hne with ⟨front, hf, ha⟩ | ha
  · rw [ha, Path.components_append_slash, plain]
    rw [hf, Path.components_append_slash, walk_append_eq_ok] at hw
    obtain ⟨next, hw, hl⟩ := hw
    refine ⟨_, rfl, ?_⟩
    obtain ⟨-, _, hs, hl⟩ := walk_cons_eq_ok.1 hl
    cases hs
    cases hl
    exact hw
  · rw [ha, Path.components_append_slash, plain]
    exact ⟨_, rfl, hw⟩

/-- Whether a name can be one of a file: it stands for nothing else and has no slash. -/
structure IsFileName (name : String) : Prop where
  ne_empty : name ≠ ""
  ne_dots : name ≠ "." ∧ name ≠ ".."
  plain : '/' ∉ name.toList

/-- Whether the system takes the path and the name of a file. -/
def takes (path name : String) : Bool :=
  !path.toList.contains '\x00' && fits path && byteLength name.toList ≤ nameLimit

theorem takes_iff {path : String} : takes path name = true ↔
    '\x00' ∉ path.toList ∧ fits path = true ∧ byteLength name.toList ≤ nameLimit := by
  simp [takes, and_assoc]

theorem locateNew_join (hl : t.locateFolder root = .ok folder) (hn : IsFileName name)
    (hz : '\x00' ∉ (Path.join root name).toList) (hf : fits (Path.join root name) = true) :
    t.locateNew (Path.join root name) = .ok (folder, some name.toList) := by
  obtain ⟨parts, hc, hw, hi⟩ := locateFolder_eq_ok.1 hl
  obtain ⟨hr, -, -, rfl⟩ := components_eq_ok.1 hc
  obtain ⟨parts, hp, hw⟩ := exists_components_join hr hn.plain hw
  have hc : t.components (Path.join root name) = .ok (parts ++ [name.toList]) :=
    components_eq_ok.2 ⟨Path.join_ne_empty hr name, hz, hf, hp.symm⟩
  have hne : name.toList ≠ [] := mt String.toList_eq_nil_iff.1 hn.ne_empty
  have dots {s : String} (h : name ≠ s) : name.toList ≠ s.toList := mt (String.toList_injective ·) h
  have hd : ¬ (name.toList = ['.'] ∨ name.toList = ['.', '.']) := by
    rintro (h | h)
    · exact dots hn.ne_dots.1 h
    · exact dots hn.ne_dots.2 h
  have hr : (parts ++ [name.toList]).reverse.dropWhile (· = []) = name.toList :: parts.reverse := by
    rw [List.reverse_append, List.reverse_singleton, List.singleton_append,
      List.dropWhile_cons_of_neg (by simpa using hne)]
  unfold locateNew
  rw [hc]
  simp only [bind, Except.bind, hr, List.reverse_reverse, hw, folderAt, hi, pure, Except.pure]
  simp [hd]

theorem endsWith_join_name (hn : IsFileName name) (root : String) :
    endsWith (Path.join root name) "/" = false := by
  have hne : name.toList ≠ [] := mt String.toList_eq_nil_iff.1 hn.ne_empty
  rw [← Bool.not_eq_true, endsWith_iff, Path.toList_join (Path.startsWith_slash_of_notMem hn.plain)]
  intro hs
  have hs : ['/'] <:+ name.toList :=
    List.suffix_of_suffix_length_le hs (Path.suffix_append _ _) (List.length_pos_iff.2 hne)
  exact hn.plain (hs.subset List.mem_cons_self)

/-- The place of a name that is nowhere in the tree is free. -/
theorem item?_eq_none_of_notMem (hp : place ≠ []) (h : ∀ item, (place, item) ∉ t.items) :
    t.item? place = none := by
  rw [item?, if_neg hp, List.lookup_eq_none_iff]
  rintro ⟨other, item⟩ hm
  rw [bne_iff_ne]
  rintro rfl
  exact h item hm

theorem put_eq_add {item : FileItem} (h : ∀ item, (place, item) ∉ t.items) :
    t.put place item = t.add [(place, item)] := by
  rw [put, add, List.filter_eq_self.2]
  rintro ⟨other, item⟩ hm
  rw [decide_eq_true_iff]
  rintro rfl
  exact h item hm

theorem eq_of_put_eq_add {other : List String} {item item' : FileItem}
    (h : t.put place item = t.add [(other, item')]) : place = other := by
  have hi : t.items.filter (·.1 ≠ place) ++ [(place, item)] = t.items ++ [(other, item')] :=
    congrArg FileTree.items h
  have last := List.append_inj_right' hi rfl
  cases last
  rfl

theorem writeFile_join (hl : t.locateFolder root = .ok folder) (hn : IsFileName name)
    (ht : takes (Path.join root name) name = true)
    (hu : ∀ item, (folder ++ [name], item) ∉ t.items) (content : String) :
    t.writeFile (Path.join root name) content =
      .ok (t.add [(folder ++ [name], .file content.toUTF8)]) := by
  obtain ⟨hz, hf, hs⟩ := takes_iff.1 ht
  have hi := item?_eq_none_of_notMem (List.append_ne_nil_of_right_ne_nil folder (List.cons_ne_nil name [])) hu
  unfold writeFile
  rw [locateNew_join hl hn hz hf]
  simp only [bind, Except.bind, endsWith_join_name hn, placeIn, if_neg (Nat.not_lt.2 hs),
    String.ofList_toList, hi, put_eq_add hu, Bool.false_eq_true, if_false]

theorem writeFile_join_error (hl : t.locateFolder root = .ok folder) (hn : IsFileName name)
    (ht : takes (Path.join root name) name = false) (content : String) :
    ∃ e, t.writeFile (Path.join root name) content = .error e := by
  have hc (h : ¬ ('\x00' ∉ (Path.join root name).toList ∧ fits (Path.join root name) = true)) :
      ∃ e, t.components (Path.join root name) = .error e := by
    cases hc : t.components (Path.join root name) with
    | error e => exact ⟨e, rfl⟩
    | ok parts =>
      obtain ⟨-, hz, hf, -⟩ := components_eq_ok.1 hc
      exact absurd ⟨hz, hf⟩ h
  unfold writeFile
  by_cases h : '\x00' ∉ (Path.join root name).toList ∧ fits (Path.join root name) = true
  · rw [locateNew_join hl hn h.1 h.2]
    have long : nameLimit < byteLength name.toList := by
      rw [Bool.eq_false_iff, ne_eq, takes_iff, not_and, not_and, Nat.not_le] at ht
      exact ht h.1 h.2
    simp only [bind, Except.bind, endsWith_join_name hn, placeIn, if_pos long, Bool.false_eq_true,
      if_false]
    exact ⟨_, rfl⟩
  · obtain ⟨e, he⟩ := hc h
    rw [locateNew, he]
    exact ⟨e, rfl⟩

theorem writeFile_join_eq_ok {t' : FileTree} {content : String} (hl : t.locateFolder root = .ok folder)
    (hn : IsFileName name) (h : t.writeFile (Path.join root name) content = .ok t') :
    t' = t.put (folder ++ [name]) (.file content.toUTF8) := by
  cases ht : takes (Path.join root name) name with
  | false =>
    obtain ⟨e, he⟩ := writeFile_join_error hl hn ht content
    rw [he] at h
    cases h
  | true =>
    obtain ⟨hz, hf, hs⟩ := takes_iff.1 ht
    unfold writeFile at h
    rw [locateNew_join hl hn hz hf] at h
    simp only [bind, Except.bind, endsWith_join_name hn, placeIn, if_neg (Nat.not_lt.2 hs),
      String.ofList_toList, Bool.false_eq_true, if_false] at h
    split at h
    · cases h
    · exact (Except.ok.inj h).symm

end FileTree

end Rollout
