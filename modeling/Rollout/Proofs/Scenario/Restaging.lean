import Rollout.Proofs.Scenario.Normalized

/-!
# Staging a file again

A file that was configured keeps its source and its mode when it is configured again, and asks for
nothing. Its place stays only if it is told from a relative one: below an app whose own place is
relative it is put below the app once more (`configureInPlace_again`).
-/

namespace Rollout

open Text

namespace Customization

variable {c c' : Customization} {downloader : Downloader} {suffix appDest : String}

theorem configureInPlace_eq (downloader : Downloader) (suffix appDest : String) (c : Customization) :
    c.configureInPlace downloader suffix appDest =
      ((c.configure downloader suffix appDest).result.toOption.getD c,
        ⟨(c.configure downloader suffix appDest).downloads,
          (c.configure downloader suffix appDest).result.map fun _ => ()⟩) := by
  unfold configureInPlace configure
  split
  · rw [Fetched.fetch]
    cases downloader ⟨c.src, suffix⟩ <;> rfl
  · rfl

/-! ## Places -/

/-- Whether the place of a file below an app starts at the root or at a home folder. An app at the root
itself has no place left when its slashes are taken off. -/
def IsAnchoredBelow (appDest : String) (c : Customization) : Prop :=
  Anchored c.dest ∨ trimSlashes appDest = "" ∨ Anchored (trimSlashes appDest)

theorem anchored_append_iff {place rest : String} (h : place ≠ "") :
    Anchored (place ++ rest) ↔ Anchored place := by
  have hne : place.toList ≠ [] := fun he => h (String.toList_eq_nil_iff.1 he)
  rw [anchored_iff, anchored_iff, String.toList_append, List.head?_append_of_ne_nil _ hne]

theorem anchored_settledDest_iff : Anchored (c.settledDest appDest) ↔ c.IsAnchoredBelow appDest := by
  by_cases ha : Anchored c.dest
  · rw [settledDest_of_anchored ha]
    exact iff_of_true ha (.inl ha)
  · rw [settledDest_of_not_anchored ha, IsAnchoredBelow, or_iff_right ha]
    by_cases hp : trimSlashes appDest = ""
    · have root : Anchored (trimSlashes appDest ++ "/" ++ c.dest) := by
        rw [hp]
        exact .inl (startsWith_append "/" c.dest)
      exact iff_of_true root (.inl hp)
    · rw [or_iff_right hp, String.append_assoc, anchored_append_iff hp]

theorem settledDest_eq_self_iff : c.settledDest appDest = c.dest ↔ Anchored c.dest := by
  constructor
  · intro h
    by_contra ha
    rw [settledDest_of_not_anchored ha] at h
    have longer := congrArg String.length h
    simp only [String.length_append] at longer
    have slash : "/".length = 1 := rfl
    omega
  · exact settledDest_of_anchored

/-! ## Configured files -/

/-- What is settled about every configured file, wherever it is put. -/
structure Configured (c : Customization) : Prop where
  src : startsWith c.src "/" = true ∨ startsWith c.src baseDirToken = true
  mode : c.mode ≠ 0
  destFolder : c.destFolder = folderOf c.dest

theorem configured_of_configure
    (absolute : ∀ request path, downloader request = .ok path → startsWith path "/" = true)
    (h : (c.configure downloader suffix appDest).result = .ok c') :
    c'.Configured ∧ c'.dest = c.settledDest appDest := by
  obtain ⟨src, hs, rfl⟩ := configure_result_eq_ok h
  refine ⟨⟨?_, settle_mode_ne_zero c appDest src, rfl⟩, rfl⟩
  cases hs with
  | downloaded _ hd => exact .inl (absolute _ _ hd)
  | kept _ hk => exact hk
  | tagged =>
    simp only [settle, String.append_assoc]
    exact .inr (startsWith_append _ _)

theorem Configured.configureInPlace_eq (h : c.Configured) (again : Downloader)
    (suffix appDest : String) :
    c.configureInPlace again suffix appDest = ({ c with
      dest := c.settledDest appDest
      destFolder := folderOf (c.settledDest appDest) }, ⟨[], .ok ()⟩) := by
  have configured : c.configure again suffix appDest = pure { c with
      dest := c.settledDest appDest
      destFolder := folderOf (c.settledDest appDest) } := by
    rw [configure, isRemote_eq_false h.src, localSource_eq_self h.src, settle, if_neg h.mode]
    rfl
  rw [Customization.configureInPlace_eq, configured]
  rfl

/-- A file that could not be configured is left as it was. One that could asks for nothing when it is
configured again, and changes only if its place is neither from the root nor from a home folder: the
place of the app then comes in front of it once more. -/
theorem configureInPlace_again
    (absolute : ∀ request path, downloader request = .ok path → startsWith path "/" = true)
    (again : Downloader) (suffix appDest : String) (c : Customization) :
    let once := c.configureInPlace downloader suffix appDest
    let twice := once.1.configureInPlace again suffix appDest
    (∀ e, once.2.result = .error e → once.1 = c) ∧
    (once.2.result = .ok () →
      twice.2 = ⟨[], .ok ()⟩ ∧
      (twice.1 = once.1 ↔ c.IsAnchoredBelow appDest) ∧
      (¬ c.IsAnchoredBelow appDest → twice.1 = { once.1 with
        dest := trimSlashes appDest ++ "/" ++ once.1.dest
        destFolder := folderOf (trimSlashes appDest ++ "/" ++ once.1.dest) })) := by
  intro once twice
  have once_eq : once = _ := configureInPlace_eq downloader suffix appDest c
  cases hc : (c.configure downloader suffix appDest).result with
  | error e =>
    rw [hc] at once_eq
    rw [once_eq]
    exact ⟨fun _ _ => rfl, nofun⟩
  | ok c' =>
    rw [hc] at once_eq
    have first : once.1 = c' := congrArg Prod.fst once_eq
    obtain ⟨configured, dest⟩ := configured_of_configure absolute hc
    have anchored : Anchored c'.dest ↔ c.IsAnchoredBelow appDest := by
      rw [dest]
      exact anchored_settledDest_iff
    have twice_eq : twice = _ := (congrArg (configureInPlace again suffix appDest) first).trans
      (configured.configureInPlace_eq again suffix appDest)
    refine ⟨fun e he => ?_, fun _ => ?_⟩
    · rw [once_eq] at he
      cases he
    · rw [twice_eq, first]
      refine ⟨rfl, ⟨fun h => ?_, fun h => ?_⟩, fun h => ?_⟩
      · exact anchored.1 (settledDest_eq_self_iff.1 (congrArg Customization.dest h))
      · simp only [settledDest_of_anchored (anchored.2 h), ← configured.destFolder]
      · simp only [settledDest_of_not_anchored (mt anchored.1 h)]

theorem configureInPlace_again_key :
    let downloader : Downloader := fun _ => .ok "/tmp/key"
    let once := configureInPlace downloader "0-test" "/srv/web//" { src := "https://host/key", dest := "key" }
    once.2.result = .ok () ∧ once.1.dest = "/srv/web/key" ∧
      once.1.configureInPlace .offline "0-test" "/srv/web//" = (once.1, ⟨[], .ok ()⟩) := by
  intro downloader once
  have absolute : ∀ request path, downloader request = .ok path → startsWith path "/" = true := by
    rintro request path ⟨⟩
    decide +kernel
  have done : once.2.result = .ok () := rfl
  obtain ⟨-, again⟩ := configureInPlace_again absolute .offline "0-test" "/srv/web//"
    { src := "https://host/key", dest := "key" }
  obtain ⟨quiet, same, -⟩ := again done
  have anchored : Anchored (trimSlashes "/srv/web//") := .inl (by decide +kernel)
  exact ⟨done, by decide +kernel, Prod.ext (same.2 (.inr (.inr anchored))) quiet⟩

/-- A file below an app whose place is relative. -/
theorem not_restaged :
    ¬ ∀ (downloader : Downloader) (suffix appDest : String) (c : Customization),
        (∀ request path, downloader request = .ok path → startsWith path "/" = true) →
        let once := c.configureInPlace downloader suffix appDest
        (once.2.result = .ok () →
          once.1.configureInPlace downloader suffix appDest = (once.1, ⟨[], .ok ()⟩)) ∧
        ∀ e, once.2.result = .error e → once.1 = c := by
  intro h
  let c : Customization := { src := "/etc/hosts", dest := "hosts" }
  have done : (c.configureInPlace .offline "0-test" "srv").2.result = .ok () :=
    toOption_eq_some.1 (by decide +kernel)
  have again := (h .offline "0-test" "srv" c nofun).1 done
  have once : (c.configureInPlace .offline "0-test" "srv").1.dest = "srv/hosts" := by decide +kernel
  have twice : ((c.configureInPlace .offline "0-test" "srv").1.configureInPlace .offline "0-test"
      "srv").1.dest = "srv/srv/hosts" := by
    decide +kernel
  rw [again, once] at twice
  revert twice
  decide

end Customization

end Rollout
