import Rollout.Proofs.Backend.Preparation

/-!
# Where files come from

A document asks for one download after the other, for the files of its apps that start with `http`, and
settles all other sources in place (`normalize_sources`). These letters alone are no scheme: a relative
path can start with them too, and is then asked for as if it were an address (`not_only_addresses`).
-/

namespace Rollout

open Text

/-- An address with the scheme of the web. -/
def IsWebAddress (src : String) : Prop :=
  startsWith src "http://" = true ∨ startsWith src "https://" = true

theorem Invocation.resolveSource_tagged (inv : Invocation) (cwd : String) {src : String}
    (h : startsWith src "/" = false) :
    inv.resolveSource cwd (baseDirToken ++ "/" ++ src) =
      (Path.absolute? cwd (Path.join inv.baseDir src)).elim (.error .emptyPath) .ok := by
  have marked : (baseDirToken ++ "/" ++ src).toList = baseDirToken.toList ++ '/' :: src.toList := by
    simp
  -- The slash behind the mark goes, and the path has no other in front.
  have bare : ('/' :: src.toList).dropWhile (· = '/') = src.toList := by
    refine (takeWhile_append_of_all (w := ['/']) (by simp) ?_).2
    intro a ha
    rw [decide_eq_false_iff_not]
    rintro rfl
    exact Bool.eq_false_iff.1 h (startsWith_singleton_iff.2 ha)
  rw [resolveSource, strip?_eq_some_iff.2 marked]
  simp only [bare, String.ofList_toList]
  cases Path.absolute? cwd (Path.join inv.baseDir src) <;> rfl

/-! ## Files -/

namespace Customization

variable {c c' : Customization} {downloader : Downloader} {suffix appDest : String}

def requests (suffix : String) (c : Customization) : List Download :=
  if startsWith c.src "http" then [⟨c.src, suffix⟩] else []

theorem asks_configure (downloader : Downloader) (suffix appDest : String) (c : Customization) :
    (c.configure downloader suffix appDest).Asks (c.requests suffix) := by
  rw [configure, requests, ← isRemote]
  split
  · exact (Fetched.asks_fetch downloader _).bind fun src _ => Fetched.asks_pure _
  · exact Fetched.asks_pure _

/-- A file that was declared, and the same in a normalized scenario. -/
structure Sourced (downloader : Downloader) (suffix : String) (c c' : Customization) : Prop where
  downloaded : startsWith c.src "http" = true → downloader ⟨c.src, suffix⟩ = .ok c'.src
  kept : startsWith c.src "/" = true ∨ startsWith c.src baseDirToken = true → c'.src = c.src
  relative : startsWith c.src "http" = false → startsWith c.src "/" = false →
    startsWith c.src baseDirToken = false → c'.src = baseDirToken ++ "/" ++ c.src ∧
      ∀ (inv : Invocation) (cwd : String), inv.resolveSource cwd c'.src =
        (Path.absolute? cwd (Path.join inv.baseDir c.src)).elim (.error .emptyPath) .ok

theorem sourced_of_configure (h : (c.configure downloader suffix appDest).result = .ok c') :
    Sourced downloader suffix c c' := by
  obtain ⟨src, hs, rfl⟩ := configure_result_eq_ok h
  cases hs with
  | downloaded remote hd =>
    have rooted : startsWith c.src "/" = false := startsWith_false_of_ne remote rfl rfl (by decide)
    have tagged : startsWith c.src baseDirToken = false :=
      startsWith_false_of_ne remote rfl rfl (by decide)
    refine ⟨fun _ => hd, ?_, fun local_ => (Bool.eq_false_iff.1 local_ remote).elim⟩
    rintro (hk | hk)
    · exact (Bool.eq_false_iff.1 rooted hk).elim
    · exact (Bool.eq_false_iff.1 tagged hk).elim
  | kept local_ hk =>
    refine ⟨fun remote => (Bool.eq_false_iff.1 local_ remote).elim, fun _ => rfl, ?_⟩
    intro _ rooted tagged
    rcases hk with hk | hk
    · exact (Bool.eq_false_iff.1 rooted hk).elim
    · exact (Bool.eq_false_iff.1 tagged hk).elim
  | tagged local_ hk =>
    exact ⟨fun remote => (Bool.eq_false_iff.1 local_ remote).elim, fun h => (hk h).elim,
      fun _ rooted _ => ⟨rfl, fun inv cwd => inv.resolveSource_tagged cwd rooted⟩⟩

end Customization

/-! ## Documents -/

namespace App

def requests (suffix : String) (app : App) : List Download :=
  app.customizations.flatMap (·.requests suffix)

theorem asks_normalize (downloader : Downloader) (d : Document) (app : App) :
    (app.normalize downloader d).Asks (app.requests d.suffix) := by
  have files : (Fetched.each (Customization.configure downloader d.suffix (app.place d).dest)
      app.customizations).Asks (app.requests d.suffix) :=
    Fetched.asks_each fun c _ => c.asks_configure downloader d.suffix (app.place d).dest
  have asks := files.bind fun customizations _ =>
    (Fetched.asks_lift (Repository.configureOption app.repository)).bind fun repository _ =>
      Fetched.asks_pure { app.place d with customizations, repository }
  rwa [List.append_nil, List.append_nil] at asks

end App

namespace Document

variable {d : Document} {s : Scenario} {downloader : Downloader}

/-- What a document can ask for, in its order. -/
def requests (d : Document) : List Download :=
  d.apps.flatMap (·.requests d.suffix)

theorem mem_requests {request : Download} : request ∈ d.requests ↔
    ∃ app ∈ d.apps, ∃ c ∈ app.customizations, startsWith c.src "http" = true ∧
      request = ⟨c.src, d.suffix⟩ := by
  simp [requests, App.requests, Customization.requests]

theorem asks_normalize (downloader : Downloader) (d : Document) :
    (d.normalize downloader).Asks d.requests := by
  unfold normalize
  simp only
  split
  · exact Fetched.asks_fail _ _
  · have apps : (Fetched.each (App.normalize downloader { d with dest := trimSlashes d.dest })
        d.apps).Asks d.requests :=
      Fetched.asks_each fun app _ => app.asks_normalize downloader { d with dest := trimSlashes d.dest }
    have asks := apps.bind fun apps _ =>
      Fetched.asks_pure (⟨{ d with dest := trimSlashes d.dest, apps }⟩ : Scenario)
    rwa [List.append_nil] at asks

theorem sourced_of_normalize (h : (d.normalize downloader).result = .ok s) :
    List.Forall₂ (fun app app' : App => List.Forall₂ (Customization.Sourced downloader d.suffix)
      app.customizations app'.customizations) d.apps s.document.apps := by
  obtain ⟨-, apps, rfl, ha⟩ := normalize_result_eq_ok h
  refine ha.imp fun app app' happ => ?_
  obtain ⟨customizations, repository, hc, -, rfl⟩ := App.normalize_result_eq_ok happ
  exact hc.imp fun _ _ => Customization.sourced_of_configure

/-- Every file that starts with `http` is asked for, up to the first failure, and nothing else. So all
requests are for web addresses if no other source starts like them, and only then if there is no
failure. -/
theorem normalize_sources (downloader : Downloader) (d : Document) :
    (∀ request, request ∈ d.requests ↔ ∃ app ∈ d.apps, ∃ c ∈ app.customizations,
      startsWith c.src "http" = true ∧ request = ⟨c.src, d.suffix⟩) ∧
    (d.normalize downloader).downloads <+: d.requests ∧
    ((∀ app ∈ d.apps, ∀ c ∈ app.customizations, startsWith c.src "http" = true → IsWebAddress c.src) →
      ∀ request ∈ (d.normalize downloader).downloads, IsWebAddress request.url) ∧
    ∀ s, (d.normalize downloader).result = .ok s →
      (d.normalize downloader).downloads = d.requests ∧
      ((∀ request ∈ (d.normalize downloader).downloads, IsWebAddress request.url) →
        ∀ app ∈ d.apps, ∀ c ∈ app.customizations, startsWith c.src "http" = true →
          IsWebAddress c.src) ∧
      List.Forall₂ (fun app app' : App => List.Forall₂ (Customization.Sourced downloader d.suffix)
        app.customizations app'.customizations) d.apps s.document.apps := by
  obtain ⟨made, all⟩ := asks_normalize downloader d
  refine ⟨fun request => mem_requests, made, fun addresses request hm => ?_, fun s hs => ?_⟩
  · obtain ⟨app, ha, c, hc, http, rfl⟩ := mem_requests.1 (made.subset hm)
    exact addresses app ha c hc http
  · refine ⟨all s hs, fun addresses app ha c hc http => ?_, sourced_of_normalize hs⟩
    rw [all s hs] at addresses
    exact addresses _ (mem_requests.2 ⟨app, ha, c, hc, http, rfl⟩)

/-- One file with an address and one without. -/
theorem normalize_sources_site :
    let d : Document := {
      id := "0"
      env := "test"
      dest := "/srv"
      apps := [{
        name := "web"
        customizations := [{ src := "https://host/site.conf", dest := "etc/site.conf" },
          { src := "conf/mime.types", dest := "etc/mime.types" }] }] }
    let downloader : Downloader := fun request => .ok ("/tmp/site-" ++ request.suffix)
    (∀ request ∈ (d.normalize downloader).downloads, IsWebAddress request.url) ∧
      ∃ s, (d.normalize downloader).result = .ok s ∧
        (d.normalize downloader).downloads = [⟨"https://host/site.conf", "0-test"⟩] ∧
        s.document.apps.map (·.customizations.map (·.src)) =
          [["/tmp/site-0-test", "@BASEDIR/conf/mime.types"]] := by
  intro d downloader
  have sources : (d.normalize downloader).result.toOption.map (fun s =>
      s.document.apps.map (·.customizations.map (·.src))) =
      some [["/tmp/site-0-test", "@BASEDIR/conf/mime.types"]] := by decide +kernel
  obtain ⟨s, ho, hs⟩ := Option.map_eq_some_iff.1 sources
  have done := toOption_eq_some.1 ho
  obtain ⟨-, -, addresses, settled⟩ := normalize_sources downloader d
  obtain ⟨all, -, -⟩ := settled s done
  refine ⟨addresses ?_, s, done, all.trans (by decide +kernel), hs⟩
  intro app ha c hc http
  cases List.mem_singleton.1 ha
  rcases List.mem_pair.1 hc with rfl | rfl
  · exact .inr (by decide +kernel)
  · exact absurd http (by decide +kernel)

/-- A folder whose name starts with the letters of a scheme. -/
theorem not_only_addresses :
    ¬ ∀ (downloader : Downloader) (d : Document), ∀ request ∈ (d.normalize downloader).downloads,
        IsWebAddress request.url := by
  intro h
  let d : Document := {
    id := "0"
    env := "t"
    dest := "/d"
    apps := [{ name := "web", customizations := [{ src := "httpd/site.conf", dest := "etc/site.conf" }] }] }
  have asked : (d.normalize .offline).downloads = [⟨"httpd/site.conf", "0-t"⟩] := by decide +kernel
  have address := h .offline d ⟨"httpd/site.conf", "0-t"⟩ (by rw [asked]; exact List.mem_cons_self)
  revert address
  rw [IsWebAddress]
  decide +kernel

end Document

end Rollout
