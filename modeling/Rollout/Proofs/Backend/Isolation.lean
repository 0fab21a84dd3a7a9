import Rollout.Proofs.Backend.Scratch
import Rollout.Scenario.Document

/-!
# Runs on a scratch folder

Writes and cleanups for any suffixes, one after another. What a run has written for a suffix is told from
the rest by its name alone, where one suffix can go on behind another and a dash. So a cleanup takes what
was written for its suffix and for all that go on behind it (`cleanup_of_runs`), not for its suffix alone
(`not_isolated`).
-/

namespace Rollout

open Text

namespace Scratch

/-! ## Names -/

def Continues (suffix longer : String) : Prop :=
  (suffix ++ "-").toList <+: longer.toList

instance (suffix longer : String) : Decidable (Continues suffix longer) :=
  inferInstanceAs (Decidable (_ <+: _))

theorem Continues.ne {suffix longer : String} (h : Continues suffix longer) : longer ≠ suffix := by
  rintro rfl
  have length := h.length_le
  rw [String.toList_append, List.length_append] at length
  simp at length

/-- The suffix of a scenario without dashes in its id and its environment continues that of no other. -/
theorem not_continues_of_dashless (d d' : Document) (hi : '-' ∉ d'.id.toList) (he : '-' ∉ d'.env.toList) :
    ¬ Continues d.suffix d'.suffix := by
  intro h
  have dashes := h.sublist.count_le '-'
  simp only [Document.suffix, String.toList_append, List.count_append, List.count_eq_zero.2 hi,
    List.count_eq_zero.2 he] at dashes
  have one : "-".toList.count '-' = 1 := by decide
  omega

/-- The name of a file begins as the names for a suffix do if the file is for that suffix or for one that
continues it: the dash at the end of what is looked for is not in the identifier. -/
theorem startsWith_lead_iff {suffix extension id wanted : String} (dash : '-' ∉ id.toList)
    (unnamed : ¬ id.toList <:+: wanted.toList) :
    startsWith (fileName suffix extension id) (lead wanted) = true ↔
      suffix = wanted ∨ Continues wanted suffix := by
  let rest := id.toList ++ (if extension.isEmpty then "" else "." ++ extension).toList
  have behind : startsWith (fileName suffix extension id) (lead wanted) = true ↔
      wanted.toList ++ ['-'] <+: suffix.toList ++ ['-'] ++ rest := by
    rw [startsWith_iff, toList_fileName, lead, lead]
    simp only [String.toList_append, List.append_assoc, List.prefix_append_right_inj]
    rfl
  have continues : Continues wanted suffix ↔ wanted.toList ++ ['-'] <+: suffix.toList := by
    rw [Continues, String.toList_append]
    rfl
  rw [behind, continues]
  constructor
  · intro h
    rcases List.prefix_or_prefix_of_prefix h (List.prefix_append _ rest) with short | long
    · rcases List.prefix_concat_iff.1 short with same | shorter
      · exact .inl (String.toList_injective (List.append_cancel_right same).symm)
      · exact .inr shorter
    · rcases List.prefix_concat_iff.1 long with same | longer
      · exact .inl (String.toList_injective (List.append_cancel_right same))
      · -- What is wanted reaches past the suffix, and its dash past the identifier.
        obtain ⟨more, hm⟩ := longer
        rw [← hm, List.append_assoc, List.prefix_append_right_inj] at h
        obtain ⟨tail, ht⟩ := h
        have hr : rest = more ++ '-' :: tail := by simpa using ht.symm
        obtain ⟨between, rfl, -⟩ := exists_of_append_eq dash hr
        exact absurd ⟨suffix.toList ++ ['-'], between, by simpa using hm⟩ unnamed
  · rintro (rfl | h)
    · exact List.prefix_append _ _
    · exact (h.trans (List.prefix_append _ _)).trans (List.prefix_append _ _)

/-! ## Runs -/

/-- A file that was written, and the place that it got. -/
structure Written where
  suffix : String
  extension : String
  id : String
  content : String
  place : List String

namespace Written

def entry (w : Written) : List String × FileItem :=
  (w.place, .file w.content.toUTF8)

/-- Whether the name of the file is a name in the scratch folder, and not a path below it. -/
def Plain (w : Written) : Prop :=
  '/' ∉ w.suffix.toList ∧ '/' ∉ w.extension.toList

instance (w : Written) : Decidable w.Plain :=
  inferInstanceAs (Decidable (_ ∧ _))

/-- Whether a suffix does not hold the identifier of the file. -/
def Unnamed (suffix : String) (w : Written) : Prop :=
  ¬ w.id.toList <:+: suffix.toList

instance (suffix : String) (w : Written) : Decidable (w.Unnamed suffix) :=
  inferInstanceAs (Decidable (¬ _))

def claimed (folder : List String) (suffix : String) (w : Written) : Bool :=
  belongsTo folder suffix w.entry

/-- What is true of a file since it was written. -/
structure Placed (folder : List String) (w : Written) : Prop where
  hex : ∃ n, w.id = identifier n
  direct : w.Plain → w.place = folder ++ [fileName w.suffix w.extension w.id]

end Written

inductive Event where
  | wrote (w : Written)
  | refused (error : BackendError)
  | cleaned (suffix : String) (count : Nat)

def Event.written? : Event → Option Written
  | .wrote w => some w
  | _ => none

def written (events : List Event) : List Written :=
  events.filterMap Event.written?

theorem written_wrote (events : List Event) (w : Written) :
    written (events ++ [.wrote w]) = written events ++ [w] := by
  simp [written, Event.written?]

theorem written_of_none (events : List Event) (event : Event) (h : event.written? = none) :
    written (events ++ [event]) = written events := by
  simp [written, h]

/-- What one call does. A write makes a file that was not there, under an identifier. -/
inductive Step (s : Scratch) (files : FileTree) : Event → FileTree → Prop where
  | wrote {w : Written} {path : String} (hex : ∃ n, w.id = identifier n)
      (written : s.write files w.suffix w.extension w.id w.content = .ok (files.add [w.entry], path)) :
      Step s files (.wrote w) (files.add [w.entry])
  | refused {suffix extension id content : String} {error : BackendError}
      (failed : s.write files suffix extension id content = .error error) :
      Step s files (.refused error) files
  | cleaned {suffix : String} {left : FileTree} {count : Nat}
      (cleaned : s.cleanup files suffix = .ok (left, count)) :
      Step s files (.cleaned suffix count) left

inductive Runs (s : Scratch) (start : FileTree) : List Event → FileTree → Prop where
  | start : Runs s start [] start
  | next {events : List Event} {files next : FileTree} {event : Event} (before : Runs s start events files)
      (step : Step s files event next) : Runs s start (events ++ [event]) next

/-- What is there after a run: some of what was there at its start, and some of what it wrote. -/
structure Holds (start : FileTree) (events : List Event) (files : FileTree)
    (old : List (List String × FileItem)) (present : List Written) : Prop where
  items : files.items = old ++ present.map Written.entry
  old : old.Sublist start.items
  present : present.Sublist (written events)

structure Tracks (s : Scratch) (start : FileTree) (folder : List String) (events : List Event)
    (files : FileTree) : Prop where
  located : files.locateFolder s.root = .ok folder
  held : ∃ old present, Holds start events files old present
  placed : ∀ w ∈ written events, w.Placed folder

section

variable {s : Scratch} {start files next : FileTree} {folder : List String} {event : Event}
  {events : List Event} {old : List (List String × FileItem)} {present : List Written}

theorem isFileName_of_hex {w : Written} (plain : w.Plain) (hex : ∃ n, w.id = identifier n) :
    FileTree.IsFileName (fileName w.suffix w.extension w.id) :=
  isFileName_fileName plain.1 plain.2 (notMem_of_hex hex (by decide))

theorem placed_of_write {w : Written} {path : String} (hl : files.locateFolder s.root = .ok folder)
    (hex : ∃ n, w.id = identifier n)
    (h : s.write files w.suffix w.extension w.id w.content = .ok (files.add [w.entry], path)) :
    w.Placed folder := by
  refine ⟨hex, fun plain => ?_⟩
  have name := isFileName_of_hex plain hex
  unfold write pathFor at h
  simp only at h
  split at h
  · rename_i next hw
    have put := FileTree.writeFile_join_eq_ok hl name hw
    cases h
    exact (FileTree.eq_of_put_eq_add put.symm).symm
  · cases h

theorem Holds.wrote (h : Holds start events files old present) (w : Written) :
    Holds start (events ++ [.wrote w]) (files.add [w.entry]) old (present ++ [w]) where
  items := by simp [FileTree.add, h.items]
  old := h.old
  present := by
    rw [written_wrote]
    exact h.present.append (List.Sublist.refl [w])

theorem Holds.filter (h : Holds start events files old present)
    (keeps : List String × FileItem → Bool) :
    Holds start events { files with items := files.items.filter keeps } (old.filter keeps)
      (present.filter fun w => keeps w.entry) where
  items := by
    rw [h.items, List.filter_append, List.filter_map]
    rfl
  old := List.filter_sublist.trans h.old
  present := List.filter_sublist.trans h.present

theorem Holds.all (h : Holds start events files old present)
    (all : files.items = start.items ++ (written events).map Written.entry) :
    old = start.items ∧ present = written events := by
  have length := congrArg List.length (h.items.symm.trans all)
  simp only [List.length_append, List.length_map] at length
  have short := h.old.length_le
  have few := h.present.length_le
  exact ⟨h.old.eq_of_length (by omega), h.present.eq_of_length (by omega)⟩

theorem Tracks.step (h : Tracks s start folder events files) (step : Step s files event next) :
    Tracks s start folder (events ++ [event]) next := by
  obtain ⟨located, ⟨old, present, held⟩, placed⟩ := h
  cases step with
  | @wrote w path hex ok =>
    refine ⟨FileTree.locateFolder_add located _, ⟨_, _, held.wrote w⟩, fun other hm => ?_⟩
    rw [written_wrote, List.mem_append] at hm
    rcases hm with hm | hm
    · exact placed other hm
    · rw [List.mem_singleton.1 hm]
      exact placed_of_write located hex ok
  | @refused _ _ _ _ error _ =>
    have same := written_of_none events (.refused error) rfl
    exact ⟨located, ⟨old, present, held.items, held.old, same ▸ held.present⟩, same ▸ placed⟩
  | @cleaned suffix _ count ok =>
    have same := written_of_none events (.cleaned suffix count) rfl
    have left := locateFolder_of_cleanup ok located
    obtain ⟨there, -, rfl⟩ := cleanup_eq_ok ok
    have kept := held.filter fun entry => !(belongsTo there suffix entry && s.reaches entry.1)
    exact ⟨left, ⟨_, _, kept.items, kept.old, same ▸ kept.present⟩, same ▸ placed⟩

structure Written.Ready (s : Scratch) (folder : List String) (w : Written) : Prop where
  hex : ∃ n, w.id = identifier n
  plain : w.Plain
  direct : w.place = folder ++ [fileName w.suffix w.extension w.id]
  taken : s.takes w.suffix w.extension w.id = true

theorem Written.Ready.step {w : Written} (ready : w.Ready s folder)
    (located : files.locateFolder s.root = .ok folder) (free : w.place ∉ files.items.map (·.1)) :
    Step s files (.wrote w) (files.add [w.entry]) := by
  have unused : ∀ item, (folder ++ [fileName w.suffix w.extension w.id], item) ∉ files.items := by
    rw [← ready.direct]
    exact fun item hm => free (List.mem_map_of_mem hm)
  have written := write_eq_ok located (isFileName_of_hex ready.plain ready.hex) ready.taken unused w.content
  rw [Scratch.entry, ← ready.direct] at written
  exact .wrote ready.hex written

theorem runs_of_ready (located : start.locateFolder s.root = .ok folder) {ws : List Written}
    (ready : ∀ w ∈ ws, w.Ready s folder) (free : ∀ w ∈ ws, w.place ∉ start.items.map (·.1))
    (distinct : (ws.map (·.place)).Nodup) :
    Runs s start (ws.map .wrote) (start.add (ws.map Written.entry)) := by
  induction ws using List.reverseRecOn with
  | nil => simpa [FileTree.add_nil] using Runs.start
  | append_singleton ws w ih =>
    rw [List.forall_mem_append, List.forall_mem_singleton] at ready free
    rw [List.map_append, List.nodup_append, List.map_singleton] at distinct
    rw [List.map_append, List.map_append, List.map_singleton, List.map_singleton]
    have before := ih ready.1 free.1 distinct.1
    have there := FileTree.locateFolder_add located (ws.map Written.entry)
    rw [← FileTree.add_add]
    refine before.next (ready.2.step there ?_)
    rw [FileTree.add, List.map_append, List.map_map, List.mem_append, not_or]
    exact ⟨free.2, fun hm => distinct.2.2 w.place hm w.place List.mem_cons_self rfl⟩

theorem Tracks.runs (located : start.locateFolder s.root = .ok folder) (runs : Runs s start events files) :
    Tracks s start folder events files := by
  induction runs with
  | start => exact ⟨located, ⟨start.items, [], by simp, List.Sublist.refl _, List.Sublist.refl _⟩, nofun⟩
  | next before step ih => exact ih.step step

end

/-! ## A shelf -/

def shelf : FileTree where
  items := [(["tmp"], .folder), (["tmp", "rigger-shop-test-dir"], .folder), (["tmp", "notes"], .file .empty)]

def shelved (suffix extension : String) (n : Nat) : Written where
  suffix
  extension
  id := identifier n
  content := "x"
  place := ["tmp", fileName suffix extension (identifier n)]

theorem locateFolder_shelf : shelf.locateFolder "/tmp" = .ok ["tmp"] := by
  have parts : [[], "tmp".toList] = Path.components (Path.join "/" "/tmp").toList := by
    decide +kernel
  exact FileTree.locateFolder_eq_ok.2 ⟨_, FileTree.components_eq_ok.2
    ⟨by decide, by decide, by decide +kernel, parts⟩, rfl, rfl⟩

theorem removable_shelf {ws : List Written} {wanted : String}
    (reached : ∀ place ∈ shelf.items.map (·.1) ++ ws.map (·.place), reaches ⟨"/tmp"⟩ place = true) :
    Removable ⟨"/tmp"⟩ (shelf.add (ws.map Written.entry)) ["tmp"] wanted := by
  intro entry hm _
  refine reached entry.1 ?_
  have places : (shelf.add (ws.map Written.entry)).items.map (·.1) =
      shelf.items.map (·.1) ++ ws.map (·.place) := by
    rw [FileTree.add, List.map_append, List.map_map]
    rfl
  rw [← places]
  exact List.mem_map_of_mem hm

theorem ready_shelved {suffix extension : String} {n : Nat} (plain : (shelved suffix extension n).Plain)
    (taken : takes ⟨"/tmp"⟩ suffix extension (identifier n) = true) :
    (shelved suffix extension n).Ready ⟨"/tmp"⟩ ["tmp"] :=
  ⟨⟨n, rfl⟩, plain, rfl, taken⟩

/-! ## Cleaning up after a run -/

/-- A cleanup takes what belongs to its suffix, counts it and leaves the rest, folders among it. -/
structure Sweeps (folder : List String) (wanted : String) (files : FileTree)
    (old : List (List String × FileItem)) (present : List Written) (left : FileTree) (count : Nat) :
    Prop where
  items : left.items = old.filter (!belongsTo folder wanted ·) ++
    (present.filter (!·.claimed folder wanted)).map Written.entry
  count : count = (old.filter (belongsTo folder wanted)).length +
    (present.filter (·.claimed folder wanted)).length
  folders : ∀ place, (place, .folder) ∈ files.items → (place, .folder) ∈ left.items

/-- A cleanup takes exactly the files that were written for its suffix. -/
structure Isolated (wanted : String) (old : List (List String × FileItem)) (present : List Written)
    (left : FileTree) (count : Nat) : Prop where
  items : left.items = old ++ (present.filter (·.suffix ≠ wanted)).map Written.entry
  count : count = (present.filter (·.suffix = wanted)).length

section

variable {s : Scratch} {start files left : FileTree} {folder : List String} {events : List Event}
  {old : List (List String × FileItem)} {present : List Written} {wanted : String} {count : Nat}

theorem sweeps_of_cleanup (hl : files.locateFolder s.root = .ok folder)
    (held : Holds start events files old present) (removable : s.Removable files folder wanted)
    (h : s.cleanup files wanted = .ok (left, count)) :
    Sweeps folder wanted files old present left count := by
  rw [cleanup_eq_of_removable hl removable] at h
  cases h
  refine ⟨(held.filter fun entry => !belongsTo folder wanted entry).items, ?_, fun place hm => ?_⟩
  · rw [held.items, List.filter_append, List.length_append, List.filter_map, List.length_map]
    rfl
  · exact List.mem_filter.2 ⟨hm, rfl⟩

theorem Written.Placed.claimed_iff {w : Written} (placed : w.Placed folder) (plain : w.Plain)
    (unnamed : w.Unnamed wanted) :
    w.claimed folder wanted = true ↔ w.suffix = wanted ∨ Continues wanted w.suffix := by
  have dash : '-' ∉ w.id.toList := notMem_of_hex placed.hex (by decide)
  rw [← @startsWith_lead_iff w.suffix w.extension w.id wanted dash unnamed]
  simp [Written.claimed, Written.entry, belongsTo, placed.direct plain, FileTree.nameIn?]

/-- Where nothing else belongs to its suffix, a cleanup takes written files only. -/
theorem Sweeps.of_foreign (sweeps : Sweeps folder wanted files old present left count)
    (foreign : ∀ entry ∈ old, belongsTo folder wanted entry = false) :
    left.items = old ++ (present.filter (!·.claimed folder wanted)).map Written.entry ∧
      count = (present.filter (·.claimed folder wanted)).length := by
  have stays : old.filter (!belongsTo folder wanted ·) = old :=
    List.filter_eq_self.2 fun entry hm => by rw [foreign entry hm]; rfl
  have goes : old.filter (belongsTo folder wanted) = [] :=
    List.filter_eq_nil_iff.2 fun entry hm => by rw [foreign entry hm]; exact Bool.false_ne_true
  have items := sweeps.items
  have number := sweeps.count
  rw [stays] at items
  rw [goes, List.length_nil, Nat.zero_add] at number
  exact ⟨items, number⟩

theorem Isolated.suffix_of_claimed (isolated : Isolated wanted old present left count)
    (items : left.items = old ++ (present.filter (!·.claimed folder wanted)).map Written.entry)
    {w : Written} (hm : w ∈ present) (hc : w.claimed folder wanted = true) : w.suffix = wanted := by
  by_contra hs
  have rest : (present.filter (!·.claimed folder wanted)).map Written.entry =
      (present.filter (·.suffix ≠ wanted)).map Written.entry :=
    List.append_cancel_left (items.symm.trans isolated.items)
  have hw : w.entry ∈ (present.filter (!·.claimed folder wanted)).map Written.entry := by
    rw [rest]
    exact List.mem_map_of_mem (List.mem_filter.2 ⟨hm, decide_eq_true hs⟩)
  obtain ⟨other, ho, he⟩ := List.mem_map.1 hw
  have free : other.claimed folder wanted = false := by simpa using (List.mem_filter.1 ho).2
  rw [Written.claimed, he] at free
  exact Bool.false_ne_true (free.symm.trans hc)

/-- A cleanup takes what was written for its suffix alone if it claims that and nothing else. -/
theorem Sweeps.isolated_iff (sweeps : Sweeps folder wanted files old present left count)
    (foreign : ∀ entry ∈ old, belongsTo folder wanted entry = false) :
    Isolated wanted old present left count ↔
      ∀ w ∈ present, (w.claimed folder wanted = true ↔ w.suffix = wanted) := by
  obtain ⟨items, number⟩ := sweeps.of_foreign foreign
  constructor
  · intro isolated w hm
    refine ⟨isolated.suffix_of_claimed items hm, fun hs => ?_⟩
    -- What is claimed is among what was written for the suffix, and as much as that.
    have among : present.filter (·.claimed folder wanted) =
        (present.filter (·.suffix = wanted)).filter (·.claimed folder wanted) := by
      rw [List.filter_filter]
      refine List.filter_congr fun w hm => ?_
      cases hc : w.claimed folder wanted with
      | false => rfl
      | true => rw [decide_eq_true (isolated.suffix_of_claimed items hm hc), Bool.and_true]
    have all : (present.filter (·.suffix = wanted)).filter (·.claimed folder wanted) =
        present.filter (·.suffix = wanted) := by
      refine List.filter_sublist.eq_of_length ?_
      rw [← among, ← number, isolated.count]
    exact List.filter_eq_self.1 all w (List.mem_filter.2 ⟨hm, decide_eq_true hs⟩)
  · intro exactly
    have claimed : ∀ w ∈ present, w.claimed folder wanted = decide (w.suffix = wanted) := by
      intro w hm
      rw [Bool.eq_iff_iff, decide_eq_true_iff]
      exact exactly w hm
    have kept : present.filter (!·.claimed folder wanted) = present.filter (·.suffix ≠ wanted) := by
      refine List.filter_congr fun w hm => ?_
      rw [claimed w hm, decide_not]
    refine ⟨?_, ?_⟩
    · rw [items, kept]
    · rw [number, List.filter_congr claimed]

/-- After any run, a cleanup takes of what is there what was written for its suffix or for one that
continues it. That is what was written for its suffix alone if nothing of a continuing one is there. -/
theorem cleanup_of_runs (located : start.locateFolder s.root = .ok folder)
    (runs : Runs s start events files) :
    ∃ old present, Holds start events files old present ∧
      ∀ wanted, s.Removable files folder wanted →
        ∃ left count, s.cleanup files wanted = .ok (left, count) ∧
          Sweeps folder wanted files old present left count ∧
          (∀ w ∈ present, w.Plain → w.Unnamed wanted →
            (w.claimed folder wanted = true ↔ w.suffix = wanted ∨ Continues wanted w.suffix)) ∧
          ((∀ entry ∈ old, belongsTo folder wanted entry = false) →
            (∀ w ∈ present, w.Plain ∧ w.Unnamed wanted) →
              (Isolated wanted old present left count ↔
                ∀ w ∈ present, ¬ Continues wanted w.suffix)) := by
  obtain ⟨there, ⟨old, present, held⟩, placed⟩ := Tracks.runs located runs
  refine ⟨old, present, held, fun wanted removable => ?_⟩
  obtain ⟨left, count, hc⟩ := exists_cleanup there wanted
  have sweeps := sweeps_of_cleanup there held removable hc
  have claims : ∀ w ∈ present, w.Plain → w.Unnamed wanted →
      (w.claimed folder wanted = true ↔ w.suffix = wanted ∨ Continues wanted w.suffix) :=
    fun w hm => (placed w (held.present.subset hm)).claimed_iff
  refine ⟨left, count, hc, sweeps, claims, fun foreign plain => ?_⟩
  rw [sweeps.isolated_iff foreign]
  refine forall₂_congr fun w hm => ?_
  rw [claims w hm (plain w hm).1 (plain w hm).2, or_iff_left_iff_imp]
  exact ⟨fun h continues => continues.ne (h continues), fun h continues => absurd continues h⟩

end

theorem cleanup_of_runs_shelf :
    let ws := [shelved "shop-test" "json" 0, shelved "shop-test2" "json" 1, shelved "shop-test" "" 2]
    ∃ left, cleanup ⟨"/tmp"⟩ (shelf.add (ws.map Written.entry)) "shop-test" = .ok (left, 2) ∧
      left.items = shelf.items ++ [(shelved "shop-test2" "json" 1).entry] := by
  intro ws
  have ready : ∀ w ∈ ws, w.Ready ⟨"/tmp"⟩ ["tmp"] := by
    simp only [ws, List.forall_mem_cons, List.not_mem_nil, false_imp_iff, implies_true, and_true]
    exact ⟨ready_shelved (by decide +kernel) (by decide +kernel),
      ready_shelved (by decide +kernel) (by decide +kernel),
      ready_shelved (by decide +kernel) (by decide +kernel)⟩
  have runs := runs_of_ready (s := ⟨"/tmp"⟩) locateFolder_shelf ready (by decide +kernel) (by decide +kernel)
  obtain ⟨old, present, held, cleans⟩ := cleanup_of_runs (s := ⟨"/tmp"⟩) locateFolder_shelf runs
  obtain ⟨rfl, rfl⟩ := held.all rfl
  obtain ⟨left, count, hc, -, -, isolated⟩ := cleans "shop-test" (removable_shelf (by decide +kernel))
  have exactly := (isolated (by decide +kernel) (by decide +kernel)).2 (by decide +kernel)
  have number : count = 2 := exactly.count
  exact ⟨left, number ▸ hc, exactly.items⟩

/-- What the scenario `eu` of `shop-test` left is taken with what the scenario `test` of `shop` left. -/
theorem not_isolated :
    ¬ ∀ (s : Scratch) (start files left : FileTree) (folder : List String) (events : List Event)
      (old : List (List String × FileItem)) (present : List Written) (wanted : String) (count : Nat),
      start.locateFolder s.root = .ok folder → Runs s start events files →
      Holds start events files old present → (∀ w ∈ present, w.Plain ∧ w.Unnamed wanted) →
      (∀ entry ∈ old, belongsTo folder wanted entry = false) → s.Removable files folder wanted →
      s.cleanup files wanted = .ok (left, count) → Isolated wanted old present left count := by
  intro h
  let ws := [shelved "shop-test-eu" "json" 0]
  have ready : ∀ w ∈ ws, w.Ready ⟨"/tmp"⟩ ["tmp"] :=
    List.forall_mem_singleton.2 (ready_shelved (by decide +kernel) (by decide +kernel))
  have runs := runs_of_ready (s := ⟨"/tmp"⟩) locateFolder_shelf ready (by decide +kernel) (by decide +kernel)
  have held : Holds shelf (ws.map .wrote) (shelf.add (ws.map Written.entry)) shelf.items ws :=
    ⟨rfl, List.Sublist.refl _, List.Sublist.refl _⟩
  have removable : Removable ⟨"/tmp"⟩ (shelf.add (ws.map Written.entry)) ["tmp"] "shop-test" :=
    removable_shelf (by decide +kernel)
  have cleaned := cleanup_eq_of_removable (s := ⟨"/tmp"⟩)
    (FileTree.locateFolder_add locateFolder_shelf (ws.map Written.entry)) removable
  have isolated := h ⟨"/tmp"⟩ shelf _ _ ["tmp"] _ shelf.items ws "shop-test" _ locateFolder_shelf runs held
    (by decide +kernel) (by decide +kernel) removable cleaned
  exact absurd isolated.count (by decide +kernel)

end Scratch

end Rollout
