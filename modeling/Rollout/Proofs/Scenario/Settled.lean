import Mathlib.Data.List.DropRight
import Rollout.Proofs.Outcome
import Rollout.Proofs.Scenario.Fetched
import Rollout.Scenario.Normalize

/-!
# Settled scenarios

What normalization leaves behind is settled: every name is full, every place and every source can be
told from one that is still to be worked out. Each step leaves what is settled as it is and downloads
nothing for it, so a second normalization has nothing to do (`normalize_settled`).
-/

namespace Rollout

open Text

/-! ## Paths -/

/-- Paths that start at the root or at a home folder. -/
def Anchored (path : String) : Prop :=
  startsWith path "/" = true ∨ startsWith path "~" = true

theorem startsWith_append (start rest : String) : startsWith (start ++ rest) start = true := by
  rw [startsWith_iff, String.toList_append]
  exact List.prefix_append _ _

theorem startsWith_singleton_iff {s : String} {c : Char} :
    startsWith s (String.ofList [c]) = true ↔ s.toList.head? = some c := by
  rw [startsWith_iff, String.toList_ofList]
  cases s.toList with
  | nil => simp
  | cons a cs => simp [eq_comm]

theorem anchored_iff {path : String} :
    Anchored path ↔ path.toList.head? = some '/' ∨ path.toList.head? = some '~' :=
  or_congr startsWith_singleton_iff startsWith_singleton_iff

theorem Anchored.append {path : String} (h : Anchored path) (rest : String) :
    Anchored (path ++ rest) := by
  rw [anchored_iff] at h ⊢
  rw [String.toList_append, List.head?_append]
  rcases h with h | h
  · exact .inl (by rw [h]; rfl)
  · exact .inr (by rw [h]; rfl)

theorem Anchored.ne_empty {path : String} (h : Anchored path) : path ≠ "" := by
  rintro rfl
  simp [anchored_iff] at h

theorem toList_trimSlashes (s : String) : (trimSlashes s).toList = s.toList.rdropWhile (· = '/') := by
  rw [trimSlashes, String.toList_ofList, List.rdropWhile]

theorem trimSlashes_trimSlashes (s : String) : trimSlashes (trimSlashes s) = trimSlashes s := by
  apply String.toList_injective
  rw [toList_trimSlashes, toList_trimSlashes, List.rdropWhile_idempotent]

theorem trimSlashes_ne_empty {s : String} (h : ∃ c ∈ s.toList, c ≠ '/') : trimSlashes s ≠ "" := by
  intro he
  have hn := congrArg String.toList he
  rw [toList_trimSlashes, String.toList_empty, List.rdropWhile_eq_nil_iff] at hn
  obtain ⟨c, hc, hs⟩ := h
  exact hs (of_decide_eq_true (hn c hc))

theorem Anchored.trimSlashes {path : String} (h : Anchored path) (hn : trimSlashes path ≠ "") :
    Anchored (trimSlashes path) := by
  obtain ⟨rest, hr⟩ := List.rdropWhile_prefix (· = '/') path.toList
  rw [← toList_trimSlashes] at hr
  have hne : (Text.trimSlashes path).toList ≠ [] := fun he => hn (String.toList_eq_nil_iff.1 he)
  rw [anchored_iff] at h ⊢
  rw [← hr, List.head?_append_of_ne_nil _ hne] at h
  exact h

/-! ## Files -/

namespace Customization

structure Settled (c : Customization) : Prop where
  src : startsWith c.src "/" = true ∨ startsWith c.src baseDirToken = true
  mode : c.mode ≠ 0
  dest : Anchored c.dest
  destFolder : c.destFolder = folderOf c.dest

variable {c c' : Customization} {downloader again : Downloader} {suffix appDest : String}

theorem isRemote_eq_false (h : startsWith c.src "/" = true ∨ startsWith c.src baseDirToken = true) :
    c.isRemote = false := by
  have local_of {start : String} (hs : startsWith c.src start = true) (ht : start.toList.head? ≠ none)
      (hh : start.toList.head? ≠ some 'h') : c.isRemote = false := by
    obtain ⟨rest, hr⟩ := startsWith_iff.1 hs
    unfold Customization.isRemote
    by_contra hc
    rw [Bool.not_eq_false, startsWith_iff, ← hr] at hc
    cases hl : start.toList with
    | nil => exact ht (by rw [hl]; rfl)
    | cons a cs =>
      rw [hl, List.cons_append] at hc
      have first := (List.cons_prefix_cons.1 hc).1
      exact hh (by rw [hl, ← first]; rfl)
  rcases h with hs | hs
  · exact local_of hs (by decide) (by decide)
  · exact local_of hs (by decide) (by decide)

theorem localSource_eq_self (h : startsWith c.src "/" = true ∨ startsWith c.src baseDirToken = true) :
    c.localSource = c.src := by
  unfold localSource
  rw [if_pos (by simpa using h)]

theorem Settled.settle_eq (h : c.Settled) (appDest : String) : c.settle appDest c.localSource = c := by
  have dest : c.settledDest appDest = c.dest := by
    unfold settledDest
    rw [if_pos (by simpa [Anchored] using h.dest)]
  rw [settle, localSource_eq_self h.src, dest, if_neg h.mode, ← h.destFolder]

theorem Settled.configure_eq (h : c.Settled) (again : Downloader) (suffix appDest : String) :
    c.configure again suffix appDest = pure c := by
  rw [configure, isRemote_eq_false h.src, h.settle_eq]
  rfl

theorem settled_settle {src : String}
    (hs : startsWith src "/" = true ∨ startsWith src baseDirToken = true)
    (place : Anchored (trimSlashes appDest)) : (c.settle appDest src).Settled := by
  refine ⟨hs, ?_, ?_, rfl⟩
  · unfold settle
    simp only
    split
    · decide
    · rename_i hm
      exact hm
  · simp only [settle, settledDest]
    split
    · rename_i hd
      simpa [Anchored] using hd
    · exact (place.append "/").append c.dest

theorem localSource_starts (c : Customization) :
    startsWith c.localSource "/" = true ∨ startsWith c.localSource baseDirToken = true := by
  unfold localSource
  split
  · rename_i h
    simpa using h
  · rw [String.append_assoc]
    exact .inr (startsWith_append _ _)

theorem settled_of_configure
    (absolute : ∀ request path, downloader request = .ok path → startsWith path "/" = true)
    (place : Anchored (trimSlashes appDest))
    (h : (c.configure downloader suffix appDest).result = .ok c') : c'.Settled := by
  unfold configure at h
  split at h
  · obtain ⟨src, hs, h⟩ := Fetched.bind_result_eq_ok.1 h
    cases h
    exact settled_settle (.inl (absolute _ _ (Fetched.fetch_result_eq_ok hs))) place
  · cases h
    exact settled_settle c.localSource_starts place

end Customization

/-! ## Repositories -/

namespace Repository

structure Settled (r : Repository) : Prop where
  sshUrl : r.sshUrl ≠ ""
  login : contains r.sshUrl "@" = false
  git : contains r.sshUrl ".git" = true
  branch : r.branch ≠ ""

variable {r : Repository} {o o' : Option Repository}

theorem Settled.configure_eq (h : r.Settled) : r.configure = .ok r := by
  have hb : r.branch.isEmpty = false := by simpa using h.branch
  simp [configure, h.login, h.git, hb]

theorem configureOption_eq (h : ∀ r ∈ o, r.Settled) : configureOption o = .ok o := by
  cases o with
  | none => rfl
  | some r =>
    have hr := h r rfl
    rw [configureOption, if_neg (by simpa using hr.sshUrl), hr.configure_eq]
    rfl

theorem settled_of_configureOption (h : configureOption o = .ok o') : ∀ r ∈ o', r.Settled := by
  cases o with
  | none =>
    cases h
    rintro r ⟨⟩
  | some r =>
    unfold configureOption at h
    simp only at h
    split at h
    · cases h
      rintro r' ⟨⟩
    · rename_i hu
      unfold configure at h
      split at h
      · cases h
      · rename_i hv
        rw [Bool.or_eq_true, not_or] at hv
        cases h
        rintro r' ⟨⟩
        refine ⟨by simpa using hu, by simpa using hv.1, by simpa using hv.2, ?_⟩
        simp only
        split
        · decide
        · rename_i hb
          simpa using hb

end Repository

/-! ## Apps -/

theorem qualifiedName_qualifiedName (id kind name : String) :
    qualifiedName id kind (qualifiedName id kind name) = qualifiedName id kind name := by
  by_cases hk : (kind.isEmpty || kind = defaultAppKind) = true
  · simp only [qualifiedName, if_pos hk]
  · have full : startsWith (qualifiedName id kind name) (id ++ "-" ++ kind ++ "-") = true := by
      simp only [qualifiedName, if_neg hk]
      split
      · assumption
      · exact startsWith_append _ _
    rw [qualifiedName, if_neg hk]
    exact if_pos full

namespace App

/-- Apps whose name and place are worked out, in a scenario of the given id. -/
structure Placed (id : String) (app : App) : Prop where
  kind : app.kind ≠ ""
  name : qualifiedName id app.kind app.name = app.name
  dest : app.dest ≠ ""
  trimmed : trimSlashes app.dest = app.dest

structure Settled (id : String) (app : App) : Prop where
  placed : app.Placed id
  files : ∀ c ∈ app.customizations, c.Settled
  repository : ∀ r ∈ app.repository, r.Settled

variable {d : Document} {app app' : App} {downloader : Downloader}

theorem Placed.place_eq (h : app.Placed d.id) : app.place d = app := by
  have hk : app.kind.isEmpty = false := by simpa using h.kind
  have hd : app.dest.isEmpty = false := by simpa using h.dest
  simp [place, hk, hd, h.name, h.trimmed]

theorem Settled.normalize_eq (h : app.Settled d.id) (again : Downloader) :
    app.normalize again d = pure app := by
  have files : Fetched.each (Customization.configure again d.suffix app.dest) app.customizations =
      pure app.customizations :=
    Fetched.each_eq_pure fun c hc => (h.files c hc).configure_eq again _ _
  have repository := Repository.configureOption_eq h.repository
  rw [normalize, h.placed.place_eq]
  simp only [files, repository]
  rfl

theorem place_name (d : Document) (app : App) :
    (app.place d).name = qualifiedName d.id (app.place d).kind app.name :=
  rfl

theorem place_kind_ne_empty (d : Document) (app : App) : (app.place d).kind ≠ "" := by
  unfold place
  simp only
  split
  · decide
  · rename_i hk
    simpa using hk

theorem trimSlashes_place_dest (d : Document) (app : App) :
    trimSlashes (app.place d).dest = (app.place d).dest := by
  unfold place
  exact trimSlashes_trimSlashes _

theorem placed_place (hd : (app.place d).dest ≠ "") : (app.place d).Placed d.id := by
  refine ⟨app.place_kind_ne_empty d, ?_, hd, app.trimSlashes_place_dest d⟩
  rw [place_name, qualifiedName_qualifiedName]

theorem anchored_place (base : Anchored d.dest)
    (own : app.dest ≠ "" → Anchored app.dest ∧ ∃ c ∈ app.dest.toList, c ≠ '/') :
    Anchored (app.place d).dest := by
  unfold place
  simp only
  split
  -- An app without a place gets one below the scenario's.
  · have dash : '-' ∈ d.suffix.toList := by simp [Document.suffix]
    apply Anchored.trimSlashes
    · simp only [String.append_assoc]
      exact base.append _
    · apply trimSlashes_ne_empty
      refine ⟨'-', ?_, by decide⟩
      simp only [String.toList_append, List.mem_append, dash, true_or, or_true]
  · rename_i he
    obtain ⟨ha, hs⟩ := own (by simpa using he)
    exact ha.trimSlashes (trimSlashes_ne_empty hs)

theorem settled_of_normalize
    (absolute : ∀ request path, downloader request = .ok path → startsWith path "/" = true)
    (base : Anchored d.dest)
    (own : app.dest ≠ "" → Anchored app.dest ∧ ∃ c ∈ app.dest.toList, c ≠ '/')
    (h : (app.normalize downloader d).result = .ok app') : app'.Settled d.id := by
  obtain ⟨customizations, hc, h⟩ := Fetched.bind_result_eq_ok.1 h
  obtain ⟨repository, hr, h⟩ := Fetched.bind_result_eq_ok.1 h
  cases h
  have anchored := anchored_place base own
  have placed := placed_place anchored.ne_empty
  refine ⟨⟨placed.kind, placed.name, placed.dest, placed.trimmed⟩, ?_,
    Repository.settled_of_configureOption hr⟩
  refine forall_mem_of_forall₂ (Fetched.each_result_eq_ok hc) ?_
  intro c _ c' hc
  rw [← app.trimSlashes_place_dest d] at anchored
  exact Customization.settled_of_configure absolute anchored hc

end App

/-! ## Documents -/

namespace Document

structure Settled (d : Document) : Prop where
  dest : d.dest ≠ ""
  trimmed : trimSlashes d.dest = d.dest
  apps : ∀ app ∈ d.apps, app.Settled d.id

variable {d : Document} {s : Scenario} {downloader : Downloader}

theorem Settled.normalize_eq (h : d.Settled) (again : Downloader) :
    d.normalize again = pure ⟨d⟩ := by
  have apps : Fetched.each (App.normalize again d) d.apps = pure d.apps :=
    Fetched.each_eq_pure fun app hm => (h.apps app hm).normalize_eq again
  have hd : d.dest.isEmpty = false := by simpa using h.dest
  simp only [normalize, h.trimmed, hd, apps]
  rfl

theorem settled_of_normalize (base : Anchored d.dest)
    (own : ∀ app ∈ d.apps, app.dest ≠ "" → Anchored app.dest ∧ ∃ c ∈ app.dest.toList, c ≠ '/')
    (absolute : ∀ request path, downloader request = .ok path → startsWith path "/" = true)
    (h : (d.normalize downloader).result = .ok s) : s.document.Settled := by
  unfold normalize at h
  simp only at h
  split at h
  · cases h
  · rename_i hd
    have nonempty : trimSlashes d.dest ≠ "" := by simpa using hd
    obtain ⟨apps, ha, h⟩ := Fetched.bind_result_eq_ok.1 h
    cases h
    refine ⟨nonempty, trimSlashes_trimSlashes _, ?_⟩
    refine forall_mem_of_forall₂ (Fetched.each_result_eq_ok ha) ?_
    intro app hm app' happ
    exact App.settled_of_normalize absolute (base.trimSlashes nonempty) (own app hm) happ

/-- A scenario that is normalized again stays as it is, and nothing is downloaded. -/
theorem normalize_settled (base : Anchored d.dest)
    (own : ∀ app ∈ d.apps, app.dest ≠ "" → Anchored app.dest ∧ ∃ c ∈ app.dest.toList, c ≠ '/')
    (absolute : ∀ request path, downloader request = .ok path → startsWith path "/" = true)
    (h : (d.normalize downloader).result = .ok s) (again : Downloader) :
    s.document.normalize again = ⟨[], .ok s⟩ :=
  (settled_of_normalize base own absolute h).normalize_eq again

theorem normalize_settled_shop :
    let d : Document := {
      id := "0"
      env := "test"
      dest := "/data/"
      apps := [
        { name := "mongo"
          kind := "db"
          customizations := [{ src := "conf/mongod.conf", dest := "etc/mongod.conf" },
            { src := "https://host/key", dest := "~/.ssh/key", mode := 600 }] },
        { name := "nginx", dest := "~//", repository := some { sshUrl := "ssh://host/site.git" } }] }
    let downloader : Downloader := fun request => .ok ("/tmp/rigger-" ++ request.suffix)
    ∃ s, (d.normalize downloader).result = .ok s ∧
      s.document.apps.map (fun app => (app.name, app.dest)) =
        [("0-db-mongo", "/data/0-test/db/0-db-mongo"), ("nginx", "~")] ∧
      s.document.normalize .offline = ⟨[], .ok s⟩ := by
  intro d downloader
  have normalized : (d.normalize downloader).result.toOption.map (fun s =>
      s.document.apps.map fun app => (app.name, app.dest)) =
      some [("0-db-mongo", "/data/0-test/db/0-db-mongo"), ("nginx", "~")] := by
    decide +kernel
  obtain ⟨s, ho, ha⟩ := Option.map_eq_some_iff.1 normalized
  have done := toOption_eq_some.1 ho
  refine ⟨s, done, ha, normalize_settled (.inl (by decide +kernel)) ?_ ?_ done .offline⟩
  · intro app hm
    simp only [d, List.mem_cons, List.not_mem_nil, or_false] at hm
    rcases hm with rfl | rfl
    · intro hd
      exact absurd rfl hd
    · intro _
      exact ⟨.inr (by decide +kernel), '~', by decide +kernel, by decide⟩
  · intro request path hp
    cases hp
    rw [startsWith_iff, String.toList_append]
    have root : "/".toList <+: "/tmp/rigger-".toList := by decide
    exact root.trans (List.prefix_append _ _)

end Document

end Rollout
