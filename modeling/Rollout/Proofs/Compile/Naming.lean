import Rollout.Proofs.Compile.Completeness

/-!
# Containers go by their flags

A compiled container has a `--name` flag among its parameters, its own or one that was made of the name
of the action. Such a flag reads as this name exactly if the name is one word; then finalizing the
container again changes nothing (`compile_flagNamed`). Of two words only the first is read
(`not_flagNamed`).
-/

namespace Rollout

open Text

def OneWord (s : String) : Prop :=
  ∀ c ∈ s.toList, isBlank c = false

namespace Container

variable {c c' : Container} {name state : String}

/-- Whether a container goes by the value of the first flag among its parameters. -/
def FlagNamed (c : Container) : Prop :=
  FirstNameFlag c.params.toList c.name.toList

/-- A flag that is made of one word reads as this word. -/
theorem firstNameFlag_given {params : String} (hn : name ≠ "") (hw : OneWord name) :
    FirstNameFlag ("--name " ++ name ++ " " ++ params).toList name.toList := by
  have text : ("--name " ++ name ++ " " ++ params).toList =
      "--name".toList ++ [' '] ++ name.toList ++ ' ' :: params.toList := by
    rw [String.toList_append, String.toList_append, String.toList_append, List.append_assoc]
    rfl
  have starts : StartsNameFlag ("--name " ++ name ++ " " ++ params).toList name.toList := by
    refine ⟨[' '], ' ' :: params.toList, text, List.cons_ne_nil _ _, List.forall_mem_singleton.2 rfl,
      by simpa using hn, hw, ?_⟩
    rintro c ⟨⟩
    rfl
  exact ⟨[], _, (List.nil_append _).symm, nofun, starts, fun _ _ _ _ _ _ => Nat.zero_le _⟩

theorem Named.flagNamed_iff (h : c.Named name c') : c'.FlagNamed ↔ OneWord c'.name := by
  refine ⟨FirstNameFlag.notBlank, fun hw => ?_⟩
  cases h with
  | flag hf hv hp =>
    rw [FlagNamed, hp, hv, String.toList_ofList]
    exact nameFlag?_eq_some_iff.1 hf
  | given _ hn hv hp =>
    rw [hv] at hw
    rw [FlagNamed, hp, hv]
    exact firstNameFlag_given hn hw

theorem Named.oneWord (h : c.Named name c') (hw : OneWord name) : OneWord c'.name := by
  cases h with
  | flag hf hv _ =>
    rw [OneWord, hv, String.toList_ofList]
    exact (nameFlag?_eq_some_iff.1 hf).notBlank
  | given _ _ hv _ =>
    rw [hv]
    exact hw

/-- Finalizing again leaves exactly the containers alone that go by their flags. -/
theorem flagNamed_iff_finalize (hs : c.state ≠ "") :
    c.FlagNamed ↔ ∀ name state, c.finalize name state = .ok c := by
  constructor
  · intro h name state
    have hf : nameFlag? true c.params.toList = some c.name.toList := nameFlag?_eq_some_iff.2 h
    have he : c.state.isEmpty = false := by simpa using hs
    simp only [finalize, hf, he, Bool.false_eq_true, if_false, String.ofList_toList]
  · intro h
    -- Without a name to fall back on, the name comes from a flag.
    cases (finalize_eq_ok (h "" "")).1 with
    | flag hf hv _ =>
      rw [FlagNamed, hv, String.toList_ofList]
      exact nameFlag?_eq_some_iff.1 hf
    | given _ hn => exact absurd rfl hn

end Container

theorem Scenario.mem_of_findApp {s : Scenario} {reference : String} {app : App}
    (h : s.findApp reference = .ok app) : app ∈ s.document.apps := by
  unfold findApp at h
  split at h
  · cases h
  · split at h
    · cases h
    · split at h
      · rename_i hf
        cases h
        rw [appNamed?, Option.or_eq_some_iff] at hf
        rcases hf with hf | ⟨-, hf⟩ <;> exact List.mem_of_find?_eq_some hf
      · cases h

namespace Compiler

variable {compiler : Compiler} {s : Scenario} {p : Playbook}

theorem Rendered.flagNamed {selector name : String} {containers : List Container}
    (h : compiler.Rendered s p selector name containers) :
    (∀ c ∈ containers, (c.FlagNamed ↔ OneWord c.name) ∧
      (c.FlagNamed ↔ ∀ name state, c.finalize name state = .ok c)) ∧
    (OneWord name → ∀ c ∈ containers, c.FlagNamed) := by
  have named : ∀ c' ∈ containers, ∃ c : Container, c.Named name c' :=
    forall_mem_of_forall₂ h fun _ _ _ hc => ⟨_, (Container.finalize_eq_ok hc).1⟩
  constructor
  · intro c hm
    obtain ⟨_, hn⟩ := named c hm
    exact ⟨hn.flagNamed_iff, Container.flagNamed_iff_finalize (h.each c hm).2⟩
  · intro hw c hm
    obtain ⟨_, hn⟩ := named c hm
    exact hn.flagNamed_iff.2 (hn.oneWord hw)

/-- A container of an action goes by the flag among its parameters exactly if its name is one word, and
exactly then finalizing it again changes nothing. All containers do if the names of the apps and those
that the playbooks without an app come to are one word each. -/
theorem compile_flagNamed {actions : List Action} (h : compiler.compile s = .ok actions) :
    (∀ action ∈ actions, ∀ c ∈ action.containers, (c.FlagNamed ↔ OneWord c.name) ∧
      (c.FlagNamed ↔ ∀ name state, c.finalize name state = .ok c)) ∧
    ((∀ app ∈ s.document.apps, OneWord app.name) →
      (∀ p ∈ s.document.playbooks, p.apps = [] → OneWord (Template.expand p.name s.context "")) →
        ∀ action ∈ actions, ∀ c ∈ action.containers, c.FlagNamed) := by
  obtain ⟨blocks, rfl, hb⟩ := compile_eq_ok_iff.1 h
  have hb := hb.imp fun _ _ => compilePlaybook_eq_ok
  simp only [List.forall_mem_flatten]
  constructor
  · refine forall_mem_of_forall₂ hb ?_
    intro p _ block hp action hm
    obtain ⟨_, _, rendered⟩ := (hp.playbook action hm).containers
    exact rendered.flagNamed.1
  · intro apps names
    refine forall_mem_of_forall₂ hb ?_
    intro p hmp block hp action hm
    by_cases ha : p.apps = []
    · obtain ⟨alone, rfl, hn⟩ := hp.alone ha
      cases List.mem_singleton.1 hm
      exact hn.containers.flagNamed.2 (names p hmp ha)
    · refine forall_mem_of_forall₂ (P := fun action => ∀ c ∈ action.containers, c.FlagNamed)
        (hp.apps ha) ?_ action hm
      intro reference _ action hf
      obtain ⟨app, happ, hname, -⟩ := hf.app
      refine hf.containers.flagNamed.2 ?_
      rw [hname]
      exact apps app (Scenario.mem_of_findApp happ)

theorem compile_flagNamed_shop :
    let compiler : Compiler := ⟨.ansible, ⟨[]⟩⟩
    let s : Scenario := ⟨{
      id := "shop"
      env := "test"
      oses := [{ user := "root" }]
      apps := [{ name := "web", dest := "srv/web" }]
      playbooks := [
        { inventory := "hosts"
          apps := ["\x7b\x7bindex .Apps 0\x7d\x7d"]
          containers := [{ params := "-d x" }, { params := "--name side -d y" }] }] }⟩
    ∃ actions, compiler.compile s = .ok actions ∧
      actions.map (·.containers.map fun c => (c.params, c.name)) =
        [[("--name web -d x", "web"), ("--name side -d y", "side")]] ∧
      ∀ action ∈ actions, ∀ c ∈ action.containers, c.FlagNamed := by
  intro compiler s
  have compiled : (compiler.compile s).toOption.map (·.map (·.containers.map fun c =>
      (c.params, c.name))) = some [[("--name web -d x", "web"), ("--name side -d y", "side")]] := by
    decide +kernel
  obtain ⟨actions, ho, ha⟩ := Option.map_eq_some_iff.1 compiled
  have done := toOption_eq_some.1 ho
  have web : "web".toList.all (!isBlank ·) = true := by decide
  refine ⟨actions, done, ha, (compile_flagNamed done).2 ?_ ?_⟩
  · intro app hm
    cases List.mem_singleton.1 hm
    exact fun c hc => by simpa using List.all_eq_true.1 web c hc
  · intro p hm hn
    cases List.mem_singleton.1 hm
    cases hn

/-- A name of two words does not read as itself behind its flag. -/
theorem not_flagNamed :
    ¬ ∀ (compiler : Compiler) (downloader : Downloader) (d : Document) (s : Scenario)
        (actions : List Action), (d.normalize downloader).result = .ok s →
      compiler.compile s = .ok actions → ∀ action ∈ actions, ∀ c ∈ action.containers,
        c.FlagNamed ∧ ∀ name state, c.finalize name state = .ok c := by
  intro h
  let s : Scenario := ⟨{
    id := "shop"
    env := "test"
    dest := "srv"
    oses := [{ user := "root" }]
    apps := [{ name := "web server", kind := "generic", dest := "srv/a" }]
    playbooks := [{ inventory := "hosts", apps := ["\x7b\x7bindex .Apps 0\x7d\x7d"],
                    containers := [{ params := "-d x" }] }] }⟩
  let c : Container := { params := "--name web server -d x", name := "web server", state := "running" }
  have normalized : (s.document.normalize .offline).result.toOption = some s := by decide +kernel
  have compiled : (Compiler.compile ⟨.ansible, ⟨[]⟩⟩ s).toOption.map (·.map (·.containers)) =
      some [[c]] := by
    decide +kernel
  obtain ⟨actions, ho, ha⟩ := Option.map_eq_some_iff.1 compiled
  obtain ⟨action, rfl, hc⟩ := List.map_eq_singleton_iff.1 ha
  have named := h _ _ _ _ _ (toOption_eq_some.1 normalized) (toOption_eq_some.1 ho) action
    List.mem_cons_self c (by rw [hc]; exact List.mem_cons_self)
  exact absurd (named.1.notBlank ' ' (by decide)) (by decide)

end Compiler

end Rollout
