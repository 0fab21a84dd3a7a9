import Rollout.Proofs.Compile.Selection

/-!
# Apps by their position

The reference `{{index .Apps i}}` is looked up by the exact name of the app at place `i`, so that an app
whose name merely has it as a part never comes in between. A place without an app, or with one that has no
name, is not found, and the error carries the reference (`findApp_position`).
-/

namespace Rollout.Scenario

open Template Text

variable {s : Scenario} {i : Nat} {app : App}

/-! ## References that are followed -/

theorem findApp_of_name {found : App} (hi : isInt64 i = true) (ha : s.document.apps[i]? = some app)
    (hn : app.name ≠ "") (hf : s.document.apps.find? (·.name = app.name) = some found) :
    s.findApp (reference i) = .ok found := by
  have named : appNamed? s.document.apps app.name = some found := by
    rw [appNamed?, hf, Option.some_or]
  simp only [findApp, tryExpand_nameTemplate hi ha, String.isEmpty_iff, hn, if_false, named]

theorem isInt64_of_lt (h : i < 2 ^ 63) : isInt64 i = true := by
  simp only [isInt64, Bool.and_eq_true, decide_eq_true_eq]
  omega

/-! ## References that are not -/

theorem findApp_of_nameless (hi : isInt64 i = true) (ha : s.document.apps[i]? = some app)
    (hn : app.name = "") : s.findApp (reference i) = .error (.appNotFound (reference i)) := by
  simp only [findApp, tryExpand_nameTemplate hi ha, String.isEmpty_iff, hn, if_true]

theorem getElem?_of_indexOne {items : List Json} {item : Json} (hi : isInt64 i = true)
    (h : indexOne (.array items) (.int i) = .ok item) : items[i]? = some item := by
  have key : Json.int64? (.number (.int i)) = some (i : Int) := by
    simp only [Json.int64?, hi, if_true]
  rw [Json.int, indexOne] at h
  simp only [key, Option.getD_some, Int.toNat_natCast] at h
  split at h
  · cases h
  · split at h
    · rename_i hitem
      cases h
      exact hitem
    · cases h

/-- A reference is expanded only if there is an app in its place. -/
theorem exists_app_of_tryExpand {name : String}
    (h : Template.tryExpand nameTemplate s.context (reference i) = .ok name) :
    ∃ app, s.document.apps[i]? = some app := by
  have hi := isInt64_of_tryExpand h
  obtain ⟨template, read, h⟩ := bind_eq_ok.1 h
  cases (parseIn_nameTemplate hi).symm.trans read
  obtain ⟨text, h, -⟩ := bind_eq_ok.1 h
  obtain ⟨value, h, -⟩ := map_eq_ok.1 h
  obtain ⟨field, h, -⟩ := bind_eq_ok.1 h
  obtain ⟨item, h, -⟩ := bind_eq_ok.1 h
  rw [eval_reference_eq] at h
  have found := getElem?_of_indexOne hi h
  rw [List.getElem?_map] at found
  obtain ⟨app, ha, -⟩ := Option.map_eq_some_iff.1 found
  exact ⟨app, ha⟩

theorem findApp_of_no_app (ha : s.document.apps[i]? = none) :
    s.findApp (reference i) = .error (.appNotFound (reference i)) := by
  cases h : Template.tryExpand nameTemplate s.context (reference i) with
  | error e => simp only [findApp, h]
  | ok name =>
    obtain ⟨app, hs⟩ := exists_app_of_tryExpand h
    cases ha.symm.trans hs

/-! ## Positions -/

theorem eq_of_find?_name {found : App} (distinct : (s.document.apps.map (·.name)).Nodup)
    (ha : s.document.apps[i]? = some app)
    (hf : s.document.apps.find? (·.name = app.name) = some found) : found = app := by
  have same : found.name = app.name := by simpa using List.find?_some hf
  exact List.inj_on_of_nodup_map distinct (List.mem_of_find?_eq_some hf) (List.mem_of_getElem? ha) same

/-- A reference to a place with an app that has a name leads to the first app of this name, which is that
app if no two share one. Any other place is not found. A list that fits in memory has at most 2^63 items. -/
theorem findApp_position (short : s.document.apps.length ≤ 2 ^ 63) (i : Nat) :
    (∀ app, s.document.apps[i]? = some app → app.name ≠ "" →
      ∃ found, s.findApp (reference i) = .ok found ∧
        s.document.apps.find? (·.name = app.name) = some found ∧ found.name = app.name ∧
        ((s.document.apps.map (·.name)).Nodup → found = app)) ∧
    ((∀ app, s.document.apps[i]? = some app → app.name = "") →
      s.findApp (reference i) = .error (.appNotFound (reference i))) := by
  have inside {app : App} (ha : s.document.apps[i]? = some app) : isInt64 i = true := by
    obtain ⟨hl, -⟩ := List.getElem?_eq_some_iff.1 ha
    exact isInt64_of_lt (hl.trans_le short)
  constructor
  · intro app ha hn
    obtain ⟨found, hf⟩ := exists_first_named ha
    refine ⟨found, findApp_of_name (inside ha) ha hn hf, hf, ?_, fun distinct =>
      eq_of_find?_name distinct ha hf⟩
    simpa using List.find?_some hf
  · intro nameless
    cases ha : s.document.apps[i]? with
    | none => exact findApp_of_no_app ha
    | some app => exact findApp_of_nameless (inside ha) ha (nameless app ha)

/-- The name of the second app is a part of the first one's, and the third has none. -/
theorem findApp_position_mongo :
    let s : Scenario := ⟨{
      apps := [{ name := "0-db-mongo-replica", image := "r" }, { name := "0-db-mongo", image := "m" },
        {}] }⟩
    (∃ found, s.findApp "\x7b\x7bindex .Apps 1\x7d\x7d" = .ok found ∧ found.image = "m") ∧
      s.findApp "\x7b\x7bindex .Apps 2\x7d\x7d" =
        .error (.appNotFound "\x7b\x7bindex .Apps 2\x7d\x7d") ∧
      s.findApp "\x7b\x7bindex .Apps 30\x7d\x7d" =
        .error (.appNotFound "\x7b\x7bindex .Apps 30\x7d\x7d") := by
  intro s
  have short : s.document.apps.length ≤ 2 ^ 63 := by decide
  have second : reference 1 = "\x7b\x7bindex .Apps 1\x7d\x7d" := by decide +kernel
  have third : reference 2 = "\x7b\x7bindex .Apps 2\x7d\x7d" := by decide +kernel
  have beyond : reference 30 = "\x7b\x7bindex .Apps 30\x7d\x7d" := by decide +kernel
  refine ⟨?_, ?_, ?_⟩
  · obtain ⟨found, hf, -, -, own⟩ := (findApp_position short 1).1 _ rfl (by decide)
    rw [second] at hf
    exact ⟨found, hf, by rw [own (by decide)]⟩
  · have missing := (findApp_position short 2).2 fun app ha => by cases ha; rfl
    rwa [third] at missing
  · have missing := (findApp_position short 30).2 nofun
    rwa [beyond] at missing

end Rollout.Scenario
