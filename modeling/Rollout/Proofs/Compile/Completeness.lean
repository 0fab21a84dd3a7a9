import Rollout.Proofs.Compile.Demands

/-!
# Compiled actions are complete

Whatever a scenario leaves out, a compiled action has a name, a play, an inventory and containers, and
each of these has a name and a state. What compilation accepts and what the actions have from their
playbooks come together here (`compile_complete`).
-/

namespace Rollout

/-! ## Containers -/

namespace Container

variable {c c' : Container} {name state : String}

/-- How a container got its name: from a flag, or together with one. -/
inductive Named (c : Container) (name : String) (c' : Container) : Prop where
  | flag {value} : nameFlag? true c.params.toList = some value → c'.name = String.ofList value →
      c'.params = c.params → Named c name c'
  | given : nameFlag? true c.params.toList = none → name ≠ "" → c'.name = name →
      c'.params = "--name " ++ name ++ " " ++ c.params → Named c name c'

theorem finalize_eq_ok (h : c.finalize name state = .ok c') :
    c.Named name c' ∧ c'.state = if c.state.isEmpty then state else c.state := by
  unfold finalize at h
  cases hf : nameFlag? true c.params.toList with
  | some value =>
    simp only [hf] at h
    cases h
    exact ⟨.flag hf rfl rfl, rfl⟩
  | none =>
    simp only [hf] at h
    split at h
    · cases h
    · rename_i hn
      cases h
      exact ⟨.given hf (by simpa using hn) rfl rfl, rfl⟩

theorem Named.name_ne_empty (h : c.Named name c') : c'.name ≠ "" := by
  cases h with
  | @flag value hf hv _ =>
    rw [hv]
    intro he
    exact nameFlag?_ne_nil hf (String.ofList_eq_empty_iff.1 he)
  | given _ hn hv _ =>
    rw [hv]
    exact hn

theorem Named.name_eq (h : c.Named name c') (bare : ¬ HasNameFlag c.params.toList) :
    c'.name = name := by
  cases h with
  | flag hf _ _ =>
    rw [nameFlag?_eq_none_iff.2 bare] at hf
    cases hf
  | given _ _ hv _ => exact hv

end Container

/-! ## Playbooks -/

theorem Backend.defaultPlay_ne_empty (backend : Backend) : backend.defaultPlay ≠ "" := by
  cases backend
  decide

theorem Playbook.settled_state_ne_empty (p : Playbook) (defaultPlay : String) :
    (p.settled defaultPlay).state ≠ "" := by
  unfold Playbook.settled
  simp only
  split
  · decide
  · rename_i h
    simpa using h

structure Action.Complete (action : Action) : Prop where
  name : action.name ≠ ""
  play : action.play ≠ ""
  inventory : action.inventory ≠ ""
  containers : action.containers ≠ []
  each : ∀ c ∈ action.containers, c.name ≠ "" ∧ c.state ≠ ""

namespace Compiler

variable {compiler : Compiler} {s : Scenario} {p : Playbook}

theorem Rendered.each {selector name : String} {containers : List Container}
    (h : compiler.Rendered s p selector name containers) :
    ∀ c ∈ containers, c.name ≠ "" ∧ c.state ≠ "" := by
  refine forall_mem_of_forall₂ h ?_
  intro c _ c' hc
  obtain ⟨named, state⟩ := Container.finalize_eq_ok hc
  refine ⟨named.name_ne_empty, ?_⟩
  rw [state]
  split
  · exact p.settled_state_ne_empty _
  · rename_i hs
    simpa using hs

theorem Rendered.ne_nil {selector name : String} {containers : List Container}
    (h : compiler.Rendered s p selector name containers) (hp : p.containers ≠ []) :
    containers ≠ [] := by
  rintro rfl
  exact hp (List.forall₂_nil_right_iff.1 h)

theorem Rendered.named {selector name : String} {containers : List Container}
    (h : compiler.Rendered s p selector name containers) :
    List.Forall₂ (fun c c' => ¬ HasNameFlag (compiler.renderParams s selector c.params).toList →
      c'.name = name) p.containers containers := by
  apply h.imp
  intro c c' hc bare
  exact (Container.finalize_eq_ok hc).1.name_eq bare

theorem FromApp.name_ne_empty {reference : String} {action : Action}
    (h : compiler.FromApp s p reference action) : action.name ≠ "" := by
  obtain ⟨app, ha, hn, -⟩ := h.app
  rw [hn]
  exact Scenario.findApp_name_ne_empty ha

theorem FromNoApp.name_ne_empty {action : Action} (h : compiler.FromNoApp s p action)
    (hp : p.containers ≠ []) : action.name ≠ "" := by
  obtain ⟨c, rest, hc⟩ := List.exists_cons_of_ne_nil (h.containers.ne_nil hp)
  have named := h.containers.each c (by rw [hc]; exact List.mem_cons_self)
  have name := h.name
  rw [hc] at name
  simp only at name
  rw [name]
  split
  · exact named.1
  · rename_i hn
    simpa using hn

theorem FromPlaybook.complete {action : Action} (h : compiler.FromPlaybook s p action)
    (accepts : compiler.Accepts s p) (name : action.name ≠ "") : action.Complete := by
  obtain ⟨selector, fallback, rendered⟩ := h.containers
  refine ⟨name, ?_, ?_, rendered.ne_nil accepts.containers, rendered.each⟩
  · rw [h.play]
    split
    · exact compiler.backend.defaultPlay_ne_empty
    · rename_i hp
      simpa using hp
  · rw [h.inventory]
    exact accepts.inventory

theorem Block.complete {block : List Action} (h : compiler.Block s p block)
    (accepts : compiler.Accepts s p) : ∀ action ∈ block, action.Complete := by
  intro action hm
  apply (h.playbook action hm).complete accepts
  by_cases ha : p.apps = []
  · obtain ⟨alone, rfl, hn⟩ := h.alone ha
    rw [List.mem_singleton.1 hm]
    exact hn.name_ne_empty accepts.containers
  · exact forall_mem_of_forall₂ (h.apps ha) (fun _ _ _ hf => hf.name_ne_empty) action hm

end Compiler

end Rollout
