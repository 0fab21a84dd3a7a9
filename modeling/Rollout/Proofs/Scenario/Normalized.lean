import Mathlib.Data.List.Infix
import Rollout.Proofs.Scenario.Settled
import Rollout.Proofs.Text.Matching

/-!
# Normalized scenarios

What a normalized scenario has of the document that it was made of, field by field, and what its apps,
their files and their repositories are sure to be like (`normalize_invariant`).
-/

namespace Rollout

open Text

/-! ## Folders -/

inductive IsFolderOf (folder path : String) : Prop where
  | slash {name : String} : '/' ∉ name.toList → path = folder ++ "/" ++ name → IsFolderOf folder path
  | none : '/' ∉ path.toList → folder = "" → IsFolderOf folder path

theorem isFolderOf_folderOf (path : String) : IsFolderOf (folderOf path) path := by
  have parts := List.takeWhile_append_dropWhile (p := (· ≠ '/')) (l := path.toList.reverse)
  have plain : '/' ∉ path.toList.reverse.takeWhile (· ≠ '/') := fun h => by
    simpa using List.mem_takeWhile_imp h
  generalize path.toList.reverse.takeWhile (· ≠ '/') = name at parts plain
  cases hd : path.toList.reverse.dropWhile (· ≠ '/') with
  | nil =>
    rw [hd, List.append_nil] at parts
    rw [parts, List.mem_reverse] at plain
    exact .none plain (by rw [folderOf, hd]; rfl)
  | cons c rest =>
    have slash : c = '/' := by
      have h := List.head?_dropWhile_not (· ≠ '/') path.toList.reverse
      rw [hd] at h
      simpa using h
    rw [hd, slash] at parts
    have folder : folderOf path = String.ofList rest.reverse := by rw [folderOf, hd]; rfl
    have cut : path = folderOf path ++ "/" ++ String.ofList name.reverse := by
      apply String.toList_injective
      nth_rewrite 1 [← List.reverse_reverse path.toList, ← parts]
      rw [folder]
      simp
    refine .slash ?_ cut
    rwa [String.toList_ofList, List.mem_reverse]

/-! ## Files -/

namespace Customization

variable {c c' : Customization} {downloader : Downloader} {suffix appDest : String}

/-- Where the source of a staged file comes from. -/
inductive SourceOf (downloader : Downloader) (suffix : String) (c : Customization) :
    String → Prop where
  | downloaded {path} : c.isRemote = true → downloader ⟨c.src, suffix⟩ = .ok path →
      SourceOf downloader suffix c path
  | kept : c.isRemote = false → startsWith c.src "/" = true ∨ startsWith c.src baseDirToken = true →
      SourceOf downloader suffix c c.src
  | tagged : c.isRemote = false →
      ¬ (startsWith c.src "/" = true ∨ startsWith c.src baseDirToken = true) →
      SourceOf downloader suffix c (baseDirToken ++ "/" ++ c.src)

theorem sourceOf_localSource (h : c.isRemote = false) :
    c.SourceOf downloader suffix c.localSource := by
  unfold localSource
  split
  · rename_i hs
    exact .kept h (by simpa using hs)
  · rename_i hs
    exact .tagged h (by simpa using hs)

theorem configure_result_eq_ok (h : (c.configure downloader suffix appDest).result = .ok c') :
    ∃ src, c.SourceOf downloader suffix src ∧ c' = c.settle appDest src := by
  unfold configure at h
  split at h
  · rename_i hr
    obtain ⟨src, hs, h⟩ := Fetched.bind_result_eq_ok.1 h
    cases h
    exact ⟨src, .downloaded hr (Fetched.fetch_result_eq_ok hs), rfl⟩
  · rename_i hr
    cases h
    exact ⟨_, sourceOf_localSource (by simpa using hr), rfl⟩

/-- A file of an app in a normalized scenario, and the one that was declared. -/
structure Normalized (downloader : Downloader) (suffix appDest : String) (c c' : Customization) :
    Prop where
  mode : c'.mode ≠ 0
  src : startsWith c'.src "/" = true ∨ startsWith c'.src baseDirToken = true ∨
    downloader ⟨c.src, suffix⟩ = .ok c'.src
  kept : Anchored c.dest → c'.dest = c.dest
  placed : ¬ Anchored c.dest → c'.dest = appDest ++ "/" ++ c.dest
  destFolder : IsFolderOf c'.destFolder c'.dest

theorem settle_mode_ne_zero (c : Customization) (appDest src : String) :
    (c.settle appDest src).mode ≠ 0 := by
  simp only [settle]
  split
  · decide
  · assumption

theorem settledDest_of_anchored (h : Anchored c.dest) : c.settledDest appDest = c.dest := by
  unfold settledDest
  rw [if_pos (by simpa [Anchored] using h)]

theorem settledDest_of_not_anchored (h : ¬ Anchored c.dest) :
    c.settledDest appDest = trimSlashes appDest ++ "/" ++ c.dest := by
  unfold settledDest
  rw [if_neg (by simpa [Anchored] using h)]

theorem normalized_of_configure (place : trimSlashes appDest = appDest)
    (h : (c.configure downloader suffix appDest).result = .ok c') :
    c.Normalized downloader suffix appDest c' := by
  obtain ⟨src, hs, rfl⟩ := configure_result_eq_ok h
  refine ⟨settle_mode_ne_zero c appDest src, ?_, settledDest_of_anchored, ?_, isFolderOf_folderOf _⟩
  · cases hs with
    | downloaded _ hd => exact .inr (.inr hd)
    | kept _ hk => exact hk.imp_right .inl
    | tagged =>
      refine .inr (.inl ?_)
      simp only [settle, String.append_assoc]
      exact startsWith_append _ _
  · intro ha
    have dest : c.settledDest appDest = trimSlashes appDest ++ "/" ++ c.dest :=
      settledDest_of_not_anchored ha
    rwa [place] at dest

end Customization

/-! ## Repositories -/

namespace Repository

structure Cloneable (r : Repository) : Prop where
  sshUrl : r.sshUrl ≠ ""
  git : ".git".toList <:+: r.sshUrl.toList
  login : '@' ∉ r.sshUrl.toList
  branch : r.branch ≠ ""

theorem contains_login_iff {address : String} :
    contains address "@" = true ↔ '@' ∈ address.toList :=
  (contains_iff (by decide)).trans (List.singleton_infix_iff _ _)

theorem Settled.cloneable {r : Repository} (h : r.Settled) : r.Cloneable :=
  ⟨h.sshUrl, (contains_iff (by decide)).1 h.git, mt contains_login_iff.2 (Bool.eq_false_iff.1 h.login),
    h.branch⟩

variable {o o' : Option Repository}

theorem configureOption_eq_none_iff (h : configureOption o = .ok o') :
    o' = none ↔ ∀ r ∈ o, r.sshUrl = "" := by
  cases o with
  | none =>
    cases h
    simp
  | some r =>
    rw [configureOption] at h
    split at h
    · rename_i hu
      cases h
      simpa using hu
    · rename_i hu
      obtain ⟨r', -, rfl⟩ := map_eq_ok.1 h
      simpa using hu

end Repository

/-! ## Apps -/

namespace App

variable {d : Document} {app app' : App} {downloader : Downloader}

theorem normalize_result_eq_ok (h : (app.normalize downloader d).result = .ok app') :
    ∃ customizations repository,
      List.Forall₂ (fun c c' =>
        (Customization.configure downloader d.suffix (app.place d).dest c).result = .ok c')
        app.customizations customizations ∧
      Repository.configureOption app.repository = .ok repository ∧
      app' = { app.place d with customizations, repository } := by
  obtain ⟨customizations, hc, h⟩ := Fetched.bind_result_eq_ok.1 h
  obtain ⟨repository, hr, h⟩ := Fetched.bind_result_eq_ok.1 h
  cases h
  exact ⟨customizations, repository, Fetched.each_result_eq_ok hc, hr, rfl⟩

/-- An app of a normalized scenario, and the one that was declared. -/
structure Normalized (downloader : Downloader) (id suffix : String) (app app' : App) : Prop where
  kind : app'.kind ≠ ""
  name : app'.kind ≠ defaultAppKind → startsWith app'.name (id ++ "-" ++ app'.kind ++ "-") = true
  files : List.Forall₂ (Customization.Normalized downloader suffix app'.dest) app.customizations
    app'.customizations
  repository : ∀ r ∈ app'.repository, r.Cloneable
  dropped : app'.repository = none ↔ ∀ r ∈ app.repository, r.sshUrl = ""
  image : app'.image = app.image
  host : app'.host = app.host
  ports : app'.ports = app.ports
  credentials : app'.credentials = app.credentials

theorem startsWith_qualifiedName {id kind name : String} (hn : kind ≠ "")
    (hk : kind ≠ defaultAppKind) :
    startsWith (qualifiedName id kind name) (id ++ "-" ++ kind ++ "-") = true := by
  unfold qualifiedName
  rw [if_neg (by simp [hn, hk])]
  simp only
  split
  · assumption
  · exact startsWith_append _ _

theorem normalized_of_normalize (h : (app.normalize downloader d).result = .ok app') :
    app.Normalized downloader d.id d.suffix app' := by
  obtain ⟨customizations, repository, hc, hr, rfl⟩ := normalize_result_eq_ok h
  refine ⟨app.place_kind_ne_empty d, ?_, ?_, ?_, Repository.configureOption_eq_none_iff hr,
    rfl, rfl, rfl, rfl⟩
  · intro hk
    simp only [place_name] at hk ⊢
    exact startsWith_qualifiedName (app.place_kind_ne_empty d) hk
  · exact hc.imp fun _ _ => Customization.normalized_of_configure (app.trimSlashes_place_dest d)
  · exact fun r hm => (Repository.settled_of_configureOption hr r hm).cloneable

end App

/-! ## Documents -/

namespace Document

variable {d : Document} {s : Scenario} {downloader : Downloader}

/-- The document of a normalized scenario, and the one that it was made of. -/
structure Normalized (downloader : Downloader) (d d' : Document) : Prop where
  dest : d'.dest ≠ ""
  trimmed : d'.dest.toList.getLast? ≠ some '/'
  apps : List.Forall₂ (App.Normalized downloader d.id d.suffix) d.apps d'.apps
  id : d'.id = d.id
  env : d'.env = d.env
  description : d'.description = d.description
  oses : d'.oses = d.oses
  playbooks : d'.playbooks = d.playbooks

theorem normalize_result_eq_ok (h : (d.normalize downloader).result = .ok s) :
    trimSlashes d.dest ≠ "" ∧ ∃ apps, s = ⟨{ d with dest := trimSlashes d.dest, apps }⟩ ∧
      List.Forall₂ (fun app app' =>
        (app.normalize downloader { d with dest := trimSlashes d.dest }).result = .ok app')
        d.apps apps := by
  unfold normalize at h
  simp only at h
  split at h
  · cases h
  · rename_i hd
    obtain ⟨apps, ha, h⟩ := Fetched.bind_result_eq_ok.1 h
    cases h
    exact ⟨by simpa using hd, apps, rfl, Fetched.each_result_eq_ok ha⟩

theorem getLast?_trimSlashes (path : String) : (trimSlashes path).toList.getLast? ≠ some '/' := by
  rw [toList_trimSlashes]
  intro h
  have hl : path.toList.rdropWhile (· = '/') ≠ [] := by
    intro he
    rw [he] at h
    cases h
  rw [List.getLast?_eq_some_getLast hl, Option.some.injEq] at h
  simpa [h] using List.rdropWhile_last_not (· = '/') path.toList hl

/-- What every normalized scenario is like, and what it has of its document. -/
theorem normalize_invariant (h : (d.normalize downloader).result = .ok s) :
    Normalized downloader d s.document := by
  obtain ⟨hd, apps, rfl, ha⟩ := normalize_result_eq_ok h
  refine ⟨hd, getLast?_trimSlashes d.dest, ?_, rfl, rfl, rfl, rfl, rfl⟩
  exact ha.imp fun _ _ happ => App.normalized_of_normalize happ

theorem normalize_invariant_shop :
    let d : Document := {
      id := "0"
      env := "test"
      dest := "data//"
      apps := [
        { name := "mongo"
          kind := "db"
          customizations := [{ src := "conf/mongod.conf", dest := "etc/mongod.conf" },
            { src := "https://host/key", dest := "~", mode := 600 }] },
        { name := "nginx", dest := "/srv", repository := some { sshUrl := "ssh://host/site.git" } },
        { name := "worker", repository := some {} }] }
    let downloader : Downloader := fun request => .ok ("key-" ++ request.suffix)
    ∃ s, (d.normalize downloader).result = .ok s ∧ Normalized downloader d s.document ∧
      s.document.apps.map (fun app => (app.name, app.customizations.map (·.destFolder))) =
        [("0-db-mongo", ["data/0-test/db/0-db-mongo/etc", ""]), ("nginx", []), ("worker", [])] := by
  intro d downloader
  have normalized : (d.normalize downloader).result.toOption.map (fun s =>
      s.document.apps.map fun app => (app.name, app.customizations.map (·.destFolder))) =
      some [("0-db-mongo", ["data/0-test/db/0-db-mongo/etc", ""]), ("nginx", []), ("worker", [])] := by
    decide +kernel
  obtain ⟨s, ho, ha⟩ := Option.map_eq_some_iff.1 normalized
  have done := toOption_eq_some.1 ho
  exact ⟨s, done, normalize_invariant done, ha⟩

end Document

end Rollout
