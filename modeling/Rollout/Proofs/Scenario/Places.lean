import Rollout.Proofs.Compile.Naming
import Rollout.Proofs.Scenario.Normalized

/-!
# Where apps are deployed

An app is deployed where it declares, or else at a place of its own below the scenario's, without the
slashes at the end of the path (`normalize_places`). They are taken away after it is decided which of the
two it is: a declared path of slashes alone comes to nothing, and to no other place (`not_deployed`).
-/

namespace Rollout

open Text

/-! ## Paths -/

/-- A path and the same without the slashes at its end. -/
structure Trimmed (path trimmed : String) : Prop where
  slashes : ∃ n, path.toList = trimmed.toList ++ List.replicate n '/'
  last : trimmed.toList.getLast? ≠ some '/'

def SlashesOnly (path : String) : Prop :=
  path ≠ "" ∧ ∀ c ∈ path.toList, c = '/'

theorem trimmed_trimSlashes (path : String) : Trimmed path (trimSlashes path) := by
  refine ⟨?_, Document.getLast?_trimSlashes path⟩
  have slashes : ∀ c ∈ path.toList.rtakeWhile (· = '/'), c = '/' := fun c hc => by
    simpa using List.mem_rtakeWhile_imp hc
  refine ⟨(path.toList.rtakeWhile (· = '/')).length, ?_⟩
  rw [toList_trimSlashes, ← List.eq_replicate_of_mem slashes, List.rdropWhile_append_rtakeWhile]

theorem trimSlashes_eq_empty_iff {path : String} :
    trimSlashes path = "" ↔ ∀ c ∈ path.toList, c = '/' := by
  rw [← String.toList_eq_nil_iff, toList_trimSlashes, List.rdropWhile_eq_nil_iff]
  simp only [decide_eq_true_eq]

/-! ## Apps -/

namespace App

/-- Where an app of a normalized document is deployed, by what was declared for it. -/
structure DeployedIn (d : Document) (declared app : App) : Prop where
  own : declared.dest ≠ "" → Trimmed declared.dest app.dest
  derived : declared.dest = "" →
    Trimmed (d.dest ++ "/" ++ (d.id ++ "-" ++ d.env) ++ "/" ++ app.kind ++ "/" ++ app.name) app.dest
  nowhere : app.dest = "" ↔ SlashesOnly declared.dest

theorem place_dest_of_empty {d : Document} {app : App} (h : app.dest = "") :
    (app.place d).dest = trimSlashes
      (d.dest ++ "/" ++ (d.id ++ "-" ++ d.env) ++ "/" ++ (app.place d).kind ++ "/" ++
        (app.place d).name) := by
  have he : app.dest.isEmpty = true := String.isEmpty_iff.2 h
  simp only [place, he, if_true, Document.suffix]

theorem place_dest_of_ne_empty {d : Document} {app : App} (h : app.dest ≠ "") :
    (app.place d).dest = trimSlashes app.dest := by
  simp only [place, String.isEmpty_iff, h, if_false]

theorem deployedIn_place (d : Document) (app : App) : DeployedIn d app (app.place d) := by
  by_cases h : app.dest = ""
  · have dash : '-' ∈ (d.dest ++ "/" ++ (d.id ++ "-" ++ d.env) ++ "/" ++ (app.place d).kind ++ "/" ++
        (app.place d).name).toList := by
      simp
    refine ⟨fun hn => absurd h hn, fun _ => ?_, ?_⟩
    · rw [place_dest_of_empty h]
      exact trimmed_trimSlashes _
    · rw [place_dest_of_empty h, trimSlashes_eq_empty_iff]
      exact ⟨fun hs => absurd (hs '-' dash) (by decide), fun hs => absurd h hs.1⟩
  · refine ⟨fun _ => ?_, fun he => absurd he h, ?_⟩
    · rw [place_dest_of_ne_empty h]
      exact trimmed_trimSlashes _
    · rw [place_dest_of_ne_empty h, trimSlashes_eq_empty_iff]
      exact ⟨fun hs => ⟨h, hs⟩, And.right⟩

theorem deployedIn_of_normalize {d : Document} {app app' : App} {downloader : Downloader}
    (h : (app.normalize downloader d).result = .ok app') : DeployedIn d app app' := by
  obtain ⟨customizations, repository, -, -, rfl⟩ := normalize_result_eq_ok h
  obtain ⟨own, derived, nowhere⟩ := deployedIn_place d app
  exact ⟨own, derived, nowhere⟩

end App

/-! ## Documents -/

namespace Document

variable {d : Document} {s : Scenario} {downloader : Downloader}

/-- Every app is deployed in its place, an action for an app where the app is, and both are nowhere
exactly if the app was declared with slashes alone. -/
theorem normalize_places (h : (d.normalize downloader).result = .ok s) :
    List.Forall₂ (App.DeployedIn s.document) d.apps s.document.apps ∧
    ∀ (compiler : Compiler) (actions : List Action), compiler.compile s = .ok actions →
      ∃ blocks : List (List Action), actions = blocks.flatten ∧
        List.Forall₂ (fun p block => p.apps ≠ [] → List.Forall₂ (fun reference action =>
          ∃ declared app, (declared, app) ∈ d.apps.zip s.document.apps ∧
            s.findApp reference = .ok app ∧ action.dest = app.dest ∧
            (action.dest = "" ↔ SlashesOnly declared.dest)) p.apps block)
          s.document.playbooks blocks := by
  obtain ⟨-, apps, rfl, ha⟩ := normalize_result_eq_ok h
  have placed : List.Forall₂ (App.DeployedIn { d with dest := trimSlashes d.dest, apps }) d.apps apps :=
    ha.imp fun _ _ happ => by
      obtain ⟨own, derived, nowhere⟩ := App.deployedIn_of_normalize happ
      exact ⟨own, derived, nowhere⟩
  refine ⟨placed, fun compiler actions hc => ?_⟩
  obtain ⟨blocks, rfl, hb⟩ := Compiler.compile_eq_ok_iff.1 hc
  refine ⟨blocks, rfl, hb.imp fun p block hp happs => ?_⟩
  refine ((Compiler.compilePlaybook_eq_ok hp).apps happs).imp fun reference action hf => ?_
  obtain ⟨app, happ, -, dest, -⟩ := hf.app
  obtain ⟨declared, hz, deployed⟩ := exists_mem_zip_of_forall₂ placed (Scenario.mem_of_findApp happ)
  exact ⟨declared, app, hz, happ, dest, by rw [dest, deployed.nowhere]⟩

theorem normalize_places_shop :
    let d : Document := {
      id := "shop"
      env := "test"
      dest := "/srv/"
      oses := [{ user := "root" }]
      apps := [{ name := "mongo/", kind := "db" }, { name := "web", dest := "~/web//" },
        { name := "proxy", dest := "//" }]
      playbooks := [{
        inventory := "hosts"
        apps := ["\x7b\x7bindex .Apps 2\x7d\x7d", "\x7b\x7bindex .Apps 0\x7d\x7d"]
        containers := [{ params := "-d x" }] }] }
    ∃ s actions, (d.normalize .offline).result = .ok s ∧
      Compiler.compile ⟨.ansible, ⟨[]⟩⟩ s = .ok actions ∧
      s.document.apps.map (·.dest) = ["/srv/shop-test/db/shop-db-mongo", "~/web", ""] ∧
      actions.map (·.dest) = ["", "/srv/shop-test/db/shop-db-mongo"] ∧
      List.Forall₂ (App.DeployedIn s.document) d.apps s.document.apps := by
  intro d
  have places : ((d.normalize .offline).result.toOption.bind fun s =>
      (Compiler.compile ⟨.ansible, ⟨[]⟩⟩ s).toOption.map fun actions =>
        (s.document.apps.map (·.dest), actions.map (·.dest))) =
      some (["/srv/shop-test/db/shop-db-mongo", "~/web", ""],
        ["", "/srv/shop-test/db/shop-db-mongo"]) := by
    decide +kernel
  obtain ⟨s, hs, hc⟩ := Option.bind_eq_some_iff.1 places
  obtain ⟨actions, ha, he⟩ := Option.map_eq_some_iff.1 hc
  have normalized := toOption_eq_some.1 hs
  exact ⟨s, actions, normalized, toOption_eq_some.1 ha, (Prod.mk.inj he).1, (Prod.mk.inj he).2,
    (normalize_places normalized).1⟩

/-- An app that is declared at the root is deployed nowhere. -/
theorem not_deployed :
    ¬ ∀ (downloader : Downloader) (d : Document) (s : Scenario),
        (d.normalize downloader).result = .ok s → ∀ app ∈ s.document.apps, app.dest ≠ "" := by
  intro h
  let s : Scenario := ⟨{ dest := "/data", apps := [{ name := "web", kind := "generic" }] }⟩
  let d : Document := { dest := "/data", apps := [{ name := "web", dest := "/" }] }
  have normalized : (d.normalize .offline).result.toOption = some s := by decide +kernel
  exact h _ d s (toOption_eq_some.1 normalized) _ List.mem_cons_self rfl

end Document

end Rollout
