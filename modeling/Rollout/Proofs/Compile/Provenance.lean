import Rollout.Action.Compile
import Rollout.Proofs.Outcome

/-!
# Where compiled actions come from

Compilation makes one block of actions for each playbook, in the order of the playbooks, and an action
has each of its fields from the playbook, from the app that it is for, or from neither.
-/

namespace Rollout

/-! ## Playbooks -/

namespace Playbook

/-- A playbook with the state and the play that it is compiled with. -/
def settled (p : Playbook) (defaultPlay : String) : Playbook :=
  { p with
    state := if p.state.isEmpty then defaultState else p.state
    play := if p.play.isEmpty then defaultPlay else p.play }

theorem withDefaults_eq_ok_iff {p p' : Playbook} {defaultPlay : String} :
    p.withDefaults defaultPlay = .ok p' ↔ p.inventory.isEmpty = false ∧ p.containers.isEmpty = false ∧
      p' = p.settled defaultPlay := by
  unfold withDefaults
  cases p.inventory.isEmpty with
  | true => simp
  | false =>
    cases p.containers.isEmpty with
    | true => simp
    | false =>
      simp only [Bool.false_eq_true, if_false, true_and, Except.ok.injEq]
      exact eq_comm

end Playbook

namespace Compiler

variable {compiler : Compiler} {s : Scenario} {p : Playbook}

/-! ## Actions -/

/-- The containers of a playbook for an app, or for none if the selector is empty: one for each that
the playbook declares. -/
def Rendered (compiler : Compiler) (s : Scenario) (p : Playbook) (selector name : String) :
    List Container → Prop :=
  List.Forall₂ (fun c c' =>
    Container.finalize { c with params := compiler.renderParams s selector c.params } name
      (p.settled compiler.backend.defaultPlay).state = .ok c') p.containers

/-- What an action has from its playbook, and what it has from nowhere. -/
structure FromPlaybook (compiler : Compiler) (s : Scenario) (p : Playbook) (action : Action) :
    Prop where
  inventory : action.inventory = p.inventory
  play : action.play = if p.play.isEmpty then compiler.backend.defaultPlay else p.play
  login : ∃ os, resolveOs s.document.oses p.user = .ok os ∧ action.user = os.user ∧
    action.pythonInterpreter = os.pythonInterpreter
  suffix : action.suffix = s.suffix
  containers : ∃ selector name, compiler.Rendered s p selector name action.containers
  unset : action.privateKey = "" ∧ action.inventoryFile = "" ∧ action.debug = 0

/-- What an action has from the app of a reference. -/
structure FromApp (compiler : Compiler) (s : Scenario) (p : Playbook) (reference : String)
    (action : Action) : Prop where
  app : ∃ app, s.findApp reference = .ok app ∧ action.name = app.name ∧ action.dest = app.dest ∧
    action.repository = app.repository ∧ action.files = app.customizations
  containers : compiler.Rendered s p reference action.name action.containers

/-- What an action for no app has. -/
structure FromNoApp (compiler : Compiler) (s : Scenario) (p : Playbook) (action : Action) :
    Prop where
  dest : action.dest = ""
  repository : action.repository = none
  files : action.files = []
  name : action.name =
    let name := Template.expand p.name s.context ""
    if name.isEmpty then (action.containers.head?.map (·.name)).getD "" else name
  containers : compiler.Rendered s p "" (Template.expand p.name s.context "") action.containers

structure Block (compiler : Compiler) (s : Scenario) (p : Playbook) (block : List Action) :
    Prop where
  length : block.length = max 1 p.apps.length
  playbook : ∀ action ∈ block, compiler.FromPlaybook s p action
  apps : p.apps ≠ [] → List.Forall₂ (compiler.FromApp s p) p.apps block
  alone : p.apps = [] → ∃ action, block = [action] ∧ compiler.FromNoApp s p action

/-- The fields that the actions of a playbook share. -/
def baseAction (compiler : Compiler) (s : Scenario) (p : Playbook) (os : Os) : Action where
  play := if p.play.isEmpty then compiler.backend.defaultPlay else p.play
  inventory := p.inventory
  user := os.user
  pythonInterpreter := os.pythonInterpreter
  suffix := s.suffix

theorem renderContainers_eq_ok_iff {selector name : String} {containers : List Container} :
    compiler.renderContainers s (p.settled compiler.backend.defaultPlay) selector name =
      .ok containers ↔ compiler.Rendered s p selector name containers :=
  mapM_eq_ok_iff

theorem compileApp_eq_ok {os : Os} {action : Action} {reference : String}
    (ho : resolveOs s.document.oses p.user = .ok os)
    (h : compiler.compileApp s (p.settled compiler.backend.defaultPlay) (compiler.baseAction s p os)
      reference = .ok action) :
    compiler.FromPlaybook s p action ∧ compiler.FromApp s p reference action := by
  obtain ⟨app, ha, h⟩ := bind_eq_ok.1 h
  obtain ⟨containers, hc, h⟩ := bind_eq_ok.1 h
  cases h
  have hr := renderContainers_eq_ok_iff.1 hc
  exact ⟨⟨rfl, rfl, ⟨os, ho, rfl, rfl⟩, rfl, ⟨_, _, hr⟩, rfl, rfl, rfl⟩,
    ⟨⟨app, ha, rfl, rfl, rfl, rfl⟩, hr⟩⟩

theorem compileAlone_eq_ok {os : Os} {action : Action}
    (ho : resolveOs s.document.oses p.user = .ok os)
    (h : compiler.compileAlone s (p.settled compiler.backend.defaultPlay) (compiler.baseAction s p os) =
      .ok action) :
    compiler.FromPlaybook s p action ∧ compiler.FromNoApp s p action := by
  obtain ⟨containers, hc, h⟩ := bind_eq_ok.1 h
  cases h
  have hr := renderContainers_eq_ok_iff.1 hc
  exact ⟨⟨rfl, rfl, ⟨os, ho, rfl, rfl⟩, rfl, ⟨_, _, hr⟩, rfl, rfl, rfl⟩, ⟨rfl, rfl, rfl, rfl, hr⟩⟩

/-! ## Blocks -/

theorem compilePlaybook_eq_ok {block : List Action} (h : compiler.compilePlaybook s p = .ok block) :
    compiler.Block s p block := by
  obtain ⟨p', hp, h⟩ := bind_eq_ok.1 h
  obtain ⟨-, -, rfl⟩ := Playbook.withDefaults_eq_ok_iff.1 hp
  obtain ⟨os, ho, h⟩ := bind_eq_ok.1 h
  have ha : (p.settled compiler.backend.defaultPlay).apps = p.apps := rfl
  simp only [ha] at h
  split at h
  · rename_i he
    rw [List.isEmpty_iff] at he
    obtain ⟨action, hc, h⟩ := bind_eq_ok.1 h
    cases h
    obtain ⟨hf, hn⟩ := compileAlone_eq_ok (p := p) ho hc
    exact ⟨by rw [he]; rfl, List.forall_mem_singleton.2 hf, fun hne => absurd he hne,
      fun _ => ⟨action, rfl, hn⟩⟩
  · rename_i he
    rw [List.isEmpty_iff] at he
    have hb : List.Forall₂ (fun reference action =>
        compiler.FromPlaybook s p action ∧ compiler.FromApp s p reference action) p.apps block :=
      (mapM_eq_ok_iff.1 h).imp fun _ _ => compileApp_eq_ok (p := p) ho
    obtain ⟨hp, ha⟩ := (List.forall₂_and_left block p.apps).1 hb.flip
    refine ⟨?_, hp, fun _ => ha.flip, fun hn => absurd hn he⟩
    rw [← hb.length_eq]
    exact (Nat.max_eq_right (List.length_pos_iff.2 he)).symm

theorem compile_eq_ok_iff {actions : List Action} :
    compiler.compile s = .ok actions ↔ ∃ blocks : List (List Action), actions = blocks.flatten ∧
      List.Forall₂ (fun p block => compiler.compilePlaybook s p = .ok block)
        s.document.playbooks blocks := by
  constructor
  · intro h
    obtain ⟨blocks, hb, h⟩ := bind_eq_ok.1 h
    cases h
    exact ⟨blocks, rfl, mapM_eq_ok_iff.1 hb⟩
  · rintro ⟨blocks, rfl, hb⟩
    exact bind_eq_ok.2 ⟨blocks, mapM_eq_ok_iff.2 hb, rfl⟩

/-- The actions of a scenario are the blocks of its playbooks, one behind the other. -/
theorem compile_blocks {actions : List Action} (h : compiler.compile s = .ok actions) :
    ∃ blocks : List (List Action), actions = blocks.flatten ∧
      List.Forall₂ (compiler.Block s) s.document.playbooks blocks := by
  obtain ⟨blocks, hb, h⟩ := bind_eq_ok.1 h
  cases h
  exact ⟨blocks, rfl, (mapM_eq_ok_iff.1 hb).imp fun _ _ => compilePlaybook_eq_ok⟩

theorem compile_blocks_shop :
    let compiler : Compiler := ⟨.ansible, ⟨[]⟩⟩
    let s : Scenario := ⟨{
      id := "shop"
      env := "test"
      oses := [{ user := "root" }]
      apps := [{ name := "web", dest := "srv/web" }, { name := "db", dest := "srv/db" }]
      playbooks := [
        { inventory := "hosts"
          apps := ["\x7b\x7bindex .Apps 1\x7d\x7d", "\x7b\x7bindex .Apps 0\x7d\x7d"]
          containers := [{ params := "-d \x7b\x7b.App.Name\x7d\x7d" }] },
        { name := "tools", play := "tools.yml", inventory := "hosts", containers := [{}] }] }⟩
    ∃ blocks : List (List Action), List.Forall₂ (compiler.Block s) s.document.playbooks blocks ∧
      blocks.flatten.map (fun action => (action.name, action.dest)) =
        [("db", "srv/db"), ("web", "srv/web"), ("tools", "")] := by
  intro compiler s
  have compiled : (compiler.compile s).toOption.map (·.map fun action => (action.name, action.dest)) =
      some [("db", "srv/db"), ("web", "srv/web"), ("tools", "")] := by
    decide +kernel
  obtain ⟨actions, ho, ha⟩ := Option.map_eq_some_iff.1 compiled
  obtain ⟨blocks, rfl, hb⟩ := compile_blocks (toOption_eq_some.1 ho)
  exact ⟨blocks, hb, ha⟩

end Compiler

end Rollout
