import Rollout.Proofs.Scenario.Sources

/-!
# The first failure of a document

Normalization goes through the apps of a document in order, and for each through its files and then to
its repository. It ends at the first file that cannot be downloaded or at the first repository that is
refused, and asks for nothing behind it (`normalize_first_failure`).
-/

namespace Rollout

open Text

/-! ## Files and repositories -/

namespace Customization

variable {c : Customization} {downloader : Downloader} {suffix appDest : String}

/-- Whether what a file asks for can be had, if it asks for anything. -/
def Available (downloader : Downloader) (suffix : String) (c : Customization) : Prop :=
  ∀ request ∈ c.requests suffix, ∃ path, downloader request = .ok path

theorem configure_of_http (h : startsWith c.src "http" = true) :
    c.configure downloader suffix appDest = ⟨[⟨c.src, suffix⟩],
      ((downloader ⟨c.src, suffix⟩).mapError (.downloadFailed c.src)).map (c.settle appDest)⟩ := by
  have fetches : c.configure downloader suffix appDest =
      Fetched.fetch downloader ⟨c.src, suffix⟩ >>= fun src => pure (c.settle appDest src) := if_pos h
  rw [fetches, Fetched.fetch]
  cases downloader ⟨c.src, suffix⟩ <;> rfl

theorem configure_of_no_http (h : ¬ startsWith c.src "http" = true) :
    c.configure downloader suffix appDest = ⟨[], .ok (c.settle appDest c.localSource)⟩ :=
  if_neg h

theorem configure_downloads (downloader : Downloader) (suffix appDest : String) (c : Customization) :
    (c.configure downloader suffix appDest).downloads = c.requests suffix := by
  rw [requests]
  split
  · rename_i h
    rw [configure_of_http h]
  · rename_i h
    rw [configure_of_no_http h]

theorem available_of_configure {c' : Customization}
    (h : (c.configure downloader suffix appDest).result = .ok c') : c.Available downloader suffix := by
  rw [Available, requests]
  split
  · rename_i http
    rw [configure_of_http http] at h
    rw [List.forall_mem_singleton]
    cases hd : downloader ⟨c.src, suffix⟩ with
    | ok path => exact ⟨path, rfl⟩
    | error reason =>
      rw [hd] at h
      cases h
  · exact List.forall_mem_nil _

theorem configure_eq_error {e : ScenarioError}
    (h : (c.configure downloader suffix appDest).result = .error e) :
    startsWith c.src "http" = true ∧
      ∃ reason, downloader ⟨c.src, suffix⟩ = .error reason ∧ e = .downloadFailed c.src reason := by
  by_cases http : startsWith c.src "http" = true
  · rw [configure_of_http http] at h
    cases hd : downloader ⟨c.src, suffix⟩ with
    | ok path =>
      rw [hd] at h
      cases h
    | error reason =>
      rw [hd] at h
      cases h
      exact ⟨http, reason, rfl, rfl⟩
  · rw [configure_of_no_http http] at h
    cases h

end Customization

namespace Repository

/-- Whether a repository has no address, or one of an alias and not of a login. -/
def Accepted (r : Repository) : Prop :=
  r.sshUrl = "" ∨ '@' ∉ r.sshUrl.toList ∧ ".git".toList <:+: r.sshUrl.toList

theorem accepted_iff {r : Repository} (hu : r.sshUrl ≠ "") :
    r.Accepted ↔ ¬ (contains r.sshUrl "@" || !contains r.sshUrl ".git") = true := by
  have git : contains r.sshUrl ".git" = true ↔ ".git".toList <:+: r.sshUrl.toList :=
    contains_iff (by decide)
  rw [Accepted, or_iff_right hu, Bool.or_eq_true, not_or, Bool.not_eq_true', Bool.not_eq_false,
    contains_login_iff, git]

theorem configureOption_cases (o : Option Repository) :
    (∃ o', configureOption o = .ok o') ∧ (∀ r ∈ o, r.Accepted) ∨
      ∃ r, o = some r ∧ ¬ r.Accepted ∧ configureOption o = .error (.invalidRepository r.sshUrl) := by
  cases o with
  | none => exact .inl ⟨⟨none, rfl⟩, nofun⟩
  | some r =>
    have all (h : r.Accepted) : ∀ r' ∈ some r, r'.Accepted := by
      rintro _ ⟨⟩
      exact h
    by_cases hu : r.sshUrl = ""
    · exact .inl ⟨⟨none, if_pos (by simpa using hu)⟩, all (.inl hu)⟩
    · have kept : configureOption (some r) = some <$> r.configure := if_neg (by simpa using hu)
      rw [kept, configure]
      by_cases hr : r.Accepted
      · rw [if_neg ((accepted_iff hu).1 hr)]
        exact .inl ⟨⟨_, rfl⟩, all hr⟩
      · rw [if_pos (not_not.1 fun h => hr ((accepted_iff hu).2 h))]
        exact .inr ⟨r, rfl, hr, rfl⟩

end Repository

/-! ## Apps -/

namespace App

variable {d : Document} {app : App} {downloader : Downloader} {suffix : String}

structure Sound (downloader : Downloader) (suffix : String) (app : App) : Prop where
  files : ∀ c ∈ app.customizations, c.Available downloader suffix
  repository : ∀ r ∈ app.repository, r.Accepted

/-- Why an app cannot be normalized, and what was asked for by then. -/
inductive Fails (downloader : Downloader) (suffix : String) (app : App) :
    List Download → ScenarioError → Prop where
  | download {files c rest reason} : app.customizations = files ++ c :: rest →
      (∀ file ∈ files, file.Available downloader suffix) → startsWith c.src "http" = true →
      downloader ⟨c.src, suffix⟩ = .error reason →
      Fails downloader suffix app (files.flatMap (·.requests suffix) ++ [⟨c.src, suffix⟩])
        (.downloadFailed c.src reason)
  | repository {r} : (∀ c ∈ app.customizations, c.Available downloader suffix) →
      app.repository = some r → ¬ r.Accepted →
      Fails downloader suffix app (app.requests suffix) (.invalidRepository r.sshUrl)

theorem Fails.not_sound {asked : List Download} {e : ScenarioError}
    (h : app.Fails downloader suffix asked e) : ¬ app.Sound downloader suffix := by
  intro sound
  cases h with
  | @download files c rest reason hs _ http hd =>
    have hc : c ∈ app.customizations := by simp [hs]
    have asks : ⟨c.src, suffix⟩ ∈ c.requests suffix := by simp [Customization.requests, http]
    obtain ⟨path, hp⟩ := sound.files c hc _ asks
    rw [hd] at hp
    cases hp
  | repository _ hr hn => exact hn (sound.repository _ hr)

theorem normalize_cases (downloader : Downloader) (d : Document) (app : App) :
    (∃ app', app.normalize downloader d = ⟨app.requests d.suffix, .ok app'⟩) ∧
        app.Sound downloader d.suffix ∨
      ∃ asked e, app.normalize downloader d = ⟨asked, .error e⟩ ∧
        app.Fails downloader d.suffix asked e := by
  let configure := Customization.configure downloader d.suffix (app.place d).dest
  have normalize_eq : app.normalize downloader d =
      Fetched.each configure app.customizations >>= fun customizations =>
        Fetched.lift (Repository.configureOption app.repository) >>= fun repository =>
          pure { app.place d with customizations, repository } :=
    rfl
  have requests (files : List Customization) :
      (files.flatMap fun c => (configure c).downloads) = files.flatMap (·.requests d.suffix) :=
    List.flatMap_congr fun c _ => c.configure_downloads downloader d.suffix (app.place d).dest
  rw [normalize_eq]
  have reached := Fetched.reached_each configure app.customizations
  generalize Fetched.each configure app.customizations = files at reached ⊢
  cases reached with
  | @all customizations done =>
    have available : ∀ c ∈ app.customizations, c.Available downloader d.suffix := by
      intro c hc
      obtain ⟨c', h⟩ := done c hc
      exact Customization.available_of_configure h
    rw [Fetched.bind_of_ok rfl, requests]
    rcases Repository.configureOption_cases app.repository with ⟨⟨o, ho⟩, accepted⟩ | ⟨r, hr, hn, ho⟩
    · rw [ho]
      refine .inl ⟨⟨{ app.place d with customizations, repository := o }, ?_⟩, available, accepted⟩
      exact congrArg (Fetched.mk · _) (List.append_nil _)
    · rw [ho]
      refine .inr ⟨app.requests d.suffix, .invalidRepository r.sshUrl, ?_, .repository available hr hn⟩
      exact congrArg (Fetched.mk · _) (List.append_nil _)
  | @failed files c rest e hs earlier hf =>
    obtain ⟨http, reason, hd, rfl⟩ := Customization.configure_eq_error hf
    have asks : (configure c).downloads = [⟨c.src, d.suffix⟩] :=
      (c.configure_downloads downloader d.suffix (app.place d).dest).trans (if_pos http)
    rw [Fetched.bind_of_error rfl, requests, asks]
    refine .inr ⟨_, _, rfl, .download hs (fun file hm => ?_) http hd⟩
    obtain ⟨file', h⟩ := earlier file hm
    exact Customization.available_of_configure h

end App

/-! ## Documents -/

namespace Document

variable {d : Document} {downloader : Downloader}

/-- How the normalization of a document ends: what was asked for, and the result. -/
inductive Ends (downloader : Downloader) (d : Document) :
    List Download → Except ScenarioError Scenario → Prop where
  | placeless : trimSlashes d.dest = "" → Ends downloader d [] (.error (.missingField .dest))
  | failed {before app behind asked e} : trimSlashes d.dest ≠ "" → d.apps = before ++ app :: behind →
      (∀ earlier ∈ before, earlier.Sound downloader d.suffix) →
      app.Fails downloader d.suffix asked e →
      Ends downloader d (before.flatMap (·.requests d.suffix) ++ asked) (.error e)
  | done {s} : trimSlashes d.dest ≠ "" → (∀ app ∈ d.apps, app.Sound downloader d.suffix) →
      Ends downloader d d.requests (.ok s)

theorem ends_normalize (downloader : Downloader) (d : Document) :
    Ends downloader d (d.normalize downloader).downloads (d.normalize downloader).result := by
  let placed : Document := { d with dest := trimSlashes d.dest }
  by_cases hd : trimSlashes d.dest = ""
  · have normalize_eq : d.normalize downloader = Fetched.fail (.missingField .dest) :=
      if_pos (by simpa using hd)
    rw [normalize_eq]
    exact .placeless hd
  · have normalize_eq : d.normalize downloader =
        Fetched.each (App.normalize downloader placed) d.apps >>= fun apps =>
          pure ⟨{ placed with apps }⟩ :=
      if_neg (by simpa using hd)
    have settled {apps : List App}
        (done : ∀ app ∈ apps, ∃ app', (app.normalize downloader placed).result = .ok app') :
        (∀ app ∈ apps, app.Sound downloader d.suffix) ∧
          (apps.flatMap fun app => (app.normalize downloader placed).downloads) =
            apps.flatMap (·.requests d.suffix) := by
      have each : ∀ app ∈ apps, app.Sound downloader d.suffix ∧
          (app.normalize downloader placed).downloads = app.requests d.suffix := by
        intro app hm
        obtain ⟨app', h⟩ := done app hm
        rcases app.normalize_cases downloader placed with ⟨⟨_, hn⟩, sound⟩ | ⟨_, _, hn, _⟩
        · exact ⟨sound, congrArg Fetched.downloads hn⟩
        · rw [hn] at h
          cases h
      exact ⟨fun app hm => (each app hm).1, List.flatMap_congr fun app hm => (each app hm).2⟩
    rw [normalize_eq]
    have reached := Fetched.reached_each (App.normalize downloader placed) d.apps
    generalize Fetched.each (App.normalize downloader placed) d.apps = apps at reached ⊢
    cases reached with
    | @all apps done =>
      obtain ⟨sound, asked⟩ := settled done
      rw [Fetched.bind_of_ok rfl, asked]
      have ends := Ends.done (s := ⟨{ placed with apps }⟩) hd sound
      rwa [← List.append_nil d.requests] at ends
    | @failed before app behind e hs earlier hf =>
      obtain ⟨sound, asked⟩ := settled earlier
      rw [Fetched.bind_of_error rfl, asked]
      rcases app.normalize_cases downloader placed with ⟨⟨_, hn⟩, -⟩ | ⟨_, _, hn, fails⟩
      · rw [hn] at hf
        cases hf
      · rw [hn] at hf ⊢
        cases hf
        exact .failed hd hs sound fails

end Document

end Rollout
