import Rollout.Proofs.Compile.NameFlag
import Rollout.Proofs.Compile.Provenance
import Rollout.Proofs.Demand

/-!
# When compilation fails

Compilation checks the demands of one playbook after the other, and succeeds exactly if all of them
are met. The name of a container can only be missing where a playbook refers to no app, because an app
that a reference leads to has a name.
-/

namespace Rollout

open Text

/-! ## Systems -/

/-- Whether one system is meant: the only one there is, or one of the user. -/
def OsKnown (oses : List Os) (user : String) : Prop :=
  oses.length = 1 ∨ 2 ≤ oses.length ∧ user ≠ "" ∧ ∃ os ∈ oses, os.user = user

def unknownOs (oses : List Os) (user : String) : ScenarioError :=
  if 2 ≤ oses.length ∧ user = "" then .ambiguousOs oses.length else .unknownUser user

def osDemand (oses : List Os) (user : String) : Demand ScenarioError :=
  ⟨OsKnown oses user, unknownOs oses user⟩

theorem resolveOs_answers (oses : List Os) (user : String) :
    Answers [osDemand oses user] (resolveOs oses user) := by
  match oses with
  | [] => exact .single (by simp [osDemand, OsKnown]) fun _ => rfl
  | [os] => exact .single (fun _ => ⟨os, rfl⟩) (by simp [osDemand, OsKnown])
  | a :: b :: oses =>
    have several : 2 ≤ (a :: b :: oses).length := by simp
    have known : OsKnown (a :: b :: oses) user ↔
        user ≠ "" ∧ ∃ os ∈ a :: b :: oses, os.user = user := by
      simp [OsKnown]
    by_cases hu : user = ""
    · subst hu
      apply Answers.single
      · intro hd
        exact absurd rfl (known.1 hd).1
      · intro _
        simp [resolveOs, osDemand, unknownOs]
    · have named : ¬ user.isEmpty = true := fun he => hu (String.isEmpty_iff.1 he)
      have refused : unknownOs (a :: b :: oses) user = .unknownUser user :=
        if_neg fun h => hu h.2
      simp only [resolveOs]
      rw [if_neg named]
      cases hf : (a :: b :: oses).find? (·.user = user) with
      | some os =>
        have found : os.user = user := by simpa using List.find?_some hf
        have met : OsKnown (a :: b :: oses) user :=
          known.2 ⟨hu, os, List.mem_of_find?_eq_some hf, found⟩
        exact .ok (List.forall_mem_singleton.2 met)
      | none =>
        have unmet : ¬ OsKnown (a :: b :: oses) user := by
          intro hk
          obtain ⟨-, os, hm, ho⟩ := known.1 hk
          have other := List.find?_eq_none.1 hf os hm
          exact other (decide_eq_true ho)
        exact .single (fun hd => absurd hd unmet) fun _ => congrArg Except.error refused.symm

/-! ## References to apps -/

namespace Scenario

/-- Why a reference leads to no app: the name that was looked for, or the reference if it comes to
none. -/
def unknownApp (s : Scenario) (reference : String) : ScenarioError :=
  match Template.tryExpand nameTemplate s.context reference with
  | .ok name => .appNotFound (if name.isEmpty then reference else name)
  | .error _ => .appNotFound reference

def appDemand (s : Scenario) (reference : String) : Demand ScenarioError :=
  ⟨∃ app, s.findApp reference = .ok app, s.unknownApp reference⟩

variable {s : Scenario}

theorem findApp_eq_error {reference : String} {e : ScenarioError} (h : s.findApp reference = .error e) :
    e = s.unknownApp reference := by
  unfold findApp at h
  unfold unknownApp
  split at h
  · rename_i hx
    cases h
    rw [hx]
  · rename_i name hx
    rw [hx]
    split at h
    · rename_i hn
      cases h
      simp only [hn, if_true]
    · rename_i hn
      split at h
      · cases h
      · cases h
        simp only [hn]
        rfl

theorem findApp_answers (s : Scenario) (reference : String) :
    Answers [s.appDemand reference] (s.findApp reference) := by
  apply Answers.single
  · exact id
  · intro missing
    cases h : s.findApp reference with
    | ok app => exact absurd ⟨app, h⟩ missing
    | error e => rw [findApp_eq_error h, appDemand]

theorem ne_empty_of_contains {name part : String} (h : contains name part = true) (hp : part ≠ "") :
    name ≠ "" := by
  rintro rfl
  simp [contains, occurs, cut?, hp] at h

theorem appNamed?_ne_empty {apps : List App} {name : String} {app : App}
    (h : appNamed? apps name = some app) (hn : name ≠ "") : app.name ≠ "" := by
  unfold appNamed? at h
  rw [Option.or_eq_some_iff] at h
  rcases h with h | ⟨-, h⟩
  · have same : app.name = name := by simpa using List.find?_some h
    rw [same]
    exact hn
  · have part : contains app.name name = true := by simpa using List.find?_some h
    exact ne_empty_of_contains part hn

theorem findApp_name_ne_empty {reference : String} {app : App} (h : s.findApp reference = .ok app) :
    app.name ≠ "" := by
  unfold findApp at h
  split at h
  · cases h
  · rename_i name hx
    split at h
    · cases h
    · rename_i hn
      split at h
      · rename_i hf
        cases h
        exact appNamed?_ne_empty hf (by simpa using hn)
      · cases h

end Scenario

/-! ## Containers -/

/-- What the name of a container takes: one to fall back on, or a flag among its parameters. -/
def nameDemand (name params : String) : Demand ScenarioError :=
  ⟨name ≠ "" ∨ HasNameFlag params.toList, .missingField (.containerName params)⟩

theorem Container.finalize_answers (c : Container) (name state : String) :
    Answers [nameDemand name c.params] (c.finalize name state) := by
  unfold Container.finalize
  cases hf : nameFlag? true c.params.toList with
  | some flag =>
    have met : HasNameFlag c.params.toList := nameFlag?_isSome_iff.1 (by rw [hf]; rfl)
    exact .ok (List.forall_mem_singleton.2 (.inr met))
  | none =>
    have bare := nameFlag?_eq_none_iff.1 hf
    by_cases hn : name = ""
    · subst hn
      exact .single (fun hd => absurd hd (by simp [nameDemand, bare])) fun _ => rfl
    · exact .single (fun _ => by simp [hn]) fun hd => absurd (.inl hn) hd

namespace Compiler

variable {compiler : Compiler} {s : Scenario} {p : Playbook}

theorem renderContainers_answers (selector name : String) :
    Answers (p.containers.map fun c => nameDemand name (compiler.renderParams s selector c.params))
      (compiler.renderContainers s p selector name) := by
  unfold renderContainers
  rw [List.map_eq_flatMap]
  apply Answers.mapM
  intro c _
  exact Container.finalize_answers { c with params := compiler.renderParams s selector c.params } _ _

/-! ## Playbooks -/

/-- What compilation demands of a playbook, in the order in which it looks. -/
def demands (compiler : Compiler) (s : Scenario) (p : Playbook) : List (Demand ScenarioError) :=
  [⟨p.inventory ≠ "", .missingField (.inventory p.name)⟩,
    ⟨p.containers ≠ [], .missingField (.containers p.name)⟩] ++
  ([osDemand s.document.oses p.user] ++
    if p.apps = [] then
      p.containers.map fun c =>
        nameDemand (Template.expand p.name s.context "") (compiler.renderParams s "" c.params)
    else p.apps.map s.appDemand)

/-- All that compilation demands of a playbook. -/
structure Accepts (compiler : Compiler) (s : Scenario) (p : Playbook) : Prop where
  inventory : p.inventory ≠ ""
  containers : p.containers ≠ []
  os : OsKnown s.document.oses p.user
  apps : ∀ reference ∈ p.apps, ∃ app, s.findApp reference = .ok app
  named : p.apps = [] → Template.expand p.name s.context "" ≠ "" ∨
    ∀ c ∈ p.containers, HasNameFlag (compiler.renderParams s "" c.params).toList

theorem demands_met_iff : (∀ d ∈ compiler.demands s p, d.met) ↔ compiler.Accepts s p := by
  unfold demands
  rw [List.forall_mem_append, List.forall_mem_append, List.forall_mem_cons, List.forall_mem_singleton,
    List.forall_mem_singleton]
  constructor
  · rintro ⟨⟨hi, hc⟩, ho, h⟩
    by_cases ha : p.apps = []
    · rw [if_pos ha, List.forall_mem_map] at h
      refine ⟨hi, hc, ho, by simp [ha], fun _ => ?_⟩
      by_cases hn : Template.expand p.name s.context "" = ""
      · exact .inr fun c hm => (h c hm).resolve_left (not_not_intro hn)
      · exact .inl hn
    · rw [if_neg ha, List.forall_mem_map] at h
      exact ⟨hi, hc, ho, h, fun he => absurd he ha⟩
  · intro h
    refine ⟨⟨h.inventory, h.containers⟩, h.os, ?_⟩
    split
    · rename_i ha
      rw [List.forall_mem_map]
      intro c hm
      exact (h.named ha).imp_right fun flags => flags c hm
    · rw [List.forall_mem_map]
      exact h.apps

theorem withDefaults_answers (p : Playbook) (defaultPlay : String) :
    Answers [⟨p.inventory ≠ "", .missingField (.inventory p.name)⟩,
      ⟨p.containers ≠ [], .missingField (.containers p.name)⟩] (p.withDefaults defaultPlay) := by
  unfold Playbook.withDefaults
  by_cases hi : p.inventory = ""
  · rw [if_pos (String.isEmpty_iff.2 hi)]
    exact .error (.here (not_not_intro hi))
  · rw [if_neg (by simpa using hi)]
    by_cases hc : p.containers = []
    · rw [if_pos (List.isEmpty_iff.2 hc)]
      exact .error (.behind hi (.here (not_not_intro hc)))
    · rw [if_neg (by simpa using hc)]
      exact .ok (List.forall_mem_cons.2 ⟨hi, List.forall_mem_singleton.2 hc⟩)

theorem compileApp_answers (base : Action) (reference : String) :
    Answers [s.appDemand reference] (compiler.compileApp s p base reference) := by
  apply (s.findApp_answers reference).bind_ok
  intro app ha
  -- Behind the reference nothing can fail: the app has a name for every container.
  have named : ∀ d ∈ p.containers.map fun c =>
      nameDemand app.name (compiler.renderParams s reference c.params), d.met := by
    rw [List.forall_mem_map]
    intro c _
    exact .inl (Scenario.findApp_name_ne_empty ha)
  obtain ⟨containers, hc⟩ := (renderContainers_answers reference app.name).ok_iff.2 named
  exact ⟨_, bind_eq_ok.2 ⟨containers, hc, rfl⟩⟩

theorem compileAlone_answers (base : Action) :
    Answers (p.containers.map fun c =>
        nameDemand (Template.expand p.name s.context "") (compiler.renderParams s "" c.params))
      (compiler.compileAlone s p base) :=
  (renderContainers_answers "" _).bind_ok fun _ _ => ⟨_, rfl⟩

theorem compilePlaybook_answers (compiler : Compiler) (s : Scenario) (p : Playbook) :
    Answers (compiler.demands s p) (compiler.compilePlaybook s p) := by
  apply (withDefaults_answers p compiler.backend.defaultPlay).bind
  intro p' hp
  obtain ⟨-, -, rfl⟩ := Playbook.withDefaults_eq_ok_iff.1 hp
  apply (resolveOs_answers s.document.oses p.user).bind
  intro os _
  have ha : (p.settled compiler.backend.defaultPlay).apps = p.apps := rfl
  simp only [ha, List.isEmpty_iff]
  split
  · exact (compileAlone_answers (p := p.settled compiler.backend.defaultPlay) _).bind_ok
      fun action _ => ⟨[action], rfl⟩
  · rw [List.map_eq_flatMap]
    exact .mapM fun reference _ => compileApp_answers _ reference

theorem compilePlaybook_ne_containerName (ha : p.apps ≠ []) (params : String) :
    compiler.compilePlaybook s p ≠ .error (.missingField (.containerName params)) := by
  intro h
  have unmet := ((compiler.compilePlaybook_answers s p).error_iff _).1 h
  obtain ⟨d, hd, he⟩ := unmet.exists_mem
  simp only [demands, if_neg ha, List.mem_append, List.mem_cons, List.not_mem_nil, or_false,
    List.mem_map] at hd
  rcases hd with (rfl | rfl) | rfl | ⟨reference, -, rfl⟩
  · cases he
  · cases he
  · simp only [osDemand, unknownOs] at he
    split at he <;> cases he
  · simp only [Scenario.appDemand, Scenario.unknownApp] at he
    split at he <;> cases he

/-! ## Scenarios -/

theorem compile_answers (compiler : Compiler) (s : Scenario) :
    Answers (s.document.playbooks.flatMap (compiler.demands s)) (compiler.compile s) :=
  (Answers.mapM fun p _ => compiler.compilePlaybook_answers s p).bind_ok fun _ _ => ⟨_, rfl⟩

/-- Compilation succeeds exactly if it accepts every playbook, and otherwise fails for the first demand
that is not met. For a playbook with apps this is never the name of a container. -/
theorem compile_first_unmet (compiler : Compiler) (s : Scenario) :
    ((∃ actions, compiler.compile s = .ok actions) ↔
        ∀ p ∈ s.document.playbooks, compiler.Accepts s p) ∧
      (∀ e, compiler.compile s = .error e ↔
        FirstUnmet (s.document.playbooks.flatMap (compiler.demands s)) e) ∧
      ∀ p : Playbook, p.apps ≠ [] → ∀ params,
        compiler.compilePlaybook s p ≠ .error (.missingField (.containerName params)) := by
  have answers := compiler.compile_answers s
  refine ⟨answers.ok_iff.trans ?_, answers.error_iff, fun p => compilePlaybook_ne_containerName⟩
  simp only [List.forall_mem_flatMap, demands_met_iff]

end Compiler

end Rollout
