import Rollout.Proofs.Template.Substitution

/-!
# Strict and lenient expansion

Both expansions read a source in the same way and go through the same nodes. The strict one ends with the
first action that fails, where the lenient one leaves the action out and goes on (`expansions_agree`).
-/

namespace Rollout

namespace Template

variable {root : Json} {nodes : List Node} {source selector : String}

/-! ## Nodes -/

/-- What a node adds to a lenient expansion. -/
def Node.part (root : Json) : Node → String
  | .text value => value
  | .action pipeline =>
    match Pipeline.eval root none pipeline with
    | .ok value => Template.render value
    | .error _ => ""

def Node.Fails (root : Json) (node : Node) (e : TemplateError) : Prop :=
  ∃ pipeline, node = .action pipeline ∧ Pipeline.eval root none pipeline = .error e

theorem Node.render_cases (root : Json) (node : Node) :
    (node.render root = .ok (node.part root) ∧ ∀ e, ¬ node.Fails root e) ∨
      ∃ e, node.render root = .error e ∧ node.Fails root e ∧ node.part root = "" := by
  cases node with
  | text value => exact .inl ⟨rfl, nofun⟩
  | action pipeline =>
    cases h : Pipeline.eval root none pipeline with
    | ok value =>
      refine .inl ⟨by rw [render, part, h]; rfl, ?_⟩
      rintro e ⟨_, hp, he⟩
      cases hp
      cases h.symm.trans he
    | error e => exact .inr ⟨e, by rw [render, h]; rfl, ⟨pipeline, rfl, h⟩, by rw [part, h]⟩

theorem Node.Fails.unique {node : Node} {e e' : TemplateError} (h : node.Fails root e)
    (h' : node.Fails root e') : e = e' := by
  obtain ⟨_, rfl, he⟩ := h
  obtain ⟨_, hp, he'⟩ := h'
  cases hp
  exact Except.error.inj (he.symm.trans he')

theorem Node.render_eq_error_iff {node : Node} {e : TemplateError} :
    node.render root = .error e ↔ node.Fails root e := by
  obtain ⟨ok, fails⟩ | ⟨e', error, fails, -⟩ := node.render_cases root
  · rw [ok]
    exact ⟨nofun, fun h => absurd h (fails e)⟩
  · rw [error, Except.error.injEq]
    exact ⟨fun h => h ▸ fails, fails.unique⟩

theorem Node.render_eq_ok_iff {node : Node} {text : String} :
    node.render root = .ok text ↔ (∀ e, ¬ node.Fails root e) ∧ text = node.part root := by
  obtain ⟨ok, fails⟩ | ⟨e, error, fails, -⟩ := node.render_cases root
  · rw [ok, Except.ok.injEq, eq_comm]
    exact ⟨fun h => ⟨fails, h⟩, And.right⟩
  · rw [error]
    exact ⟨nofun, fun h => absurd fails (h.1 e)⟩

/-! ## Rows of nodes -/

def output (root : Json) (nodes : List Node) : String :=
  String.join (nodes.map (Node.part root))

theorem output_cons (root : Json) (node : Node) (rest : List Node) :
    output root (node :: rest) = node.part root ++ output root rest := by
  rw [output, List.map_cons, String.join_cons, output]

/-- The failure of the first action that fails. -/
def FirstFailure (root : Json) (nodes : List Node) (e : TemplateError) : Prop :=
  ∃ before node behind, nodes = before ++ node :: behind ∧
    (∀ node ∈ before, ∀ e, ¬ node.Fails root e) ∧ node.Fails root e

theorem firstFailure_cons {node : Node} {rest : List Node} {e : TemplateError} :
    FirstFailure root (node :: rest) e ↔
      node.Fails root e ∨ (∀ e, ¬ node.Fails root e) ∧ FirstFailure root rest e := by
  constructor
  · rintro ⟨_ | ⟨first, before⟩, failing, behind, h, sound, fails⟩
    · cases h
      exact .inl fails
    · cases h
      rw [List.forall_mem_cons] at sound
      exact .inr ⟨sound.1, before, failing, behind, rfl, sound.2, fails⟩
  · rintro (fails | ⟨sound, before, failing, behind, rfl, sounds, fails⟩)
    · exact ⟨[], node, rest, rfl, List.forall_mem_nil _, fails⟩
    · exact ⟨node :: before, failing, behind, rfl, List.forall_mem_cons.2 ⟨sound, sounds⟩, fails⟩

theorem renderPresent_eq (root : Json) (nodes : List Node) :
    renderPresent root nodes = output root nodes := by
  induction nodes with
  | nil => rfl
  | cons node rest ih =>
    rw [renderPresent_cons, output_cons, ih]
    obtain ⟨ok, -⟩ | ⟨e, error, -, none⟩ := node.render_cases root
    · rw [ok]
      rfl
    · rw [error, none]
      rfl

theorem renderAll_eq_ok_iff {text : String} :
    renderAll root nodes = .ok text ↔
      (∀ node ∈ nodes, ∀ e, ¬ node.Fails root e) ∧ text = output root nodes := by
  induction nodes generalizing text with
  | nil =>
    rw [renderAll, Except.ok.injEq, eq_comm]
    exact ⟨fun h => ⟨List.forall_mem_nil _, h⟩, And.right⟩
  | cons node rest ih =>
    rw [renderAll, bind_eq_ok, output_cons, List.forall_mem_cons]
    constructor
    · rintro ⟨first, hf, h⟩
      obtain ⟨texts, ht, h⟩ := bind_eq_ok.1 h
      cases h
      obtain ⟨sound, rfl⟩ := Node.render_eq_ok_iff.1 hf
      obtain ⟨sounds, rfl⟩ := ih.1 ht
      exact ⟨⟨sound, sounds⟩, rfl⟩
    · rintro ⟨⟨sound, sounds⟩, rfl⟩
      exact ⟨_, Node.render_eq_ok_iff.2 ⟨sound, rfl⟩, bind_eq_ok.2 ⟨_, ih.2 ⟨sounds, rfl⟩, rfl⟩⟩

theorem renderAll_eq_error_iff {e : TemplateError} :
    renderAll root nodes = .error e ↔ FirstFailure root nodes e := by
  induction nodes with
  | nil =>
    constructor
    · rintro ⟨⟩
    · rintro ⟨before, node, behind, h, -⟩
      exact absurd h.symm (List.append_ne_nil_of_right_ne_nil before (List.cons_ne_nil node behind))
  | cons node rest ih =>
    rw [renderAll, bind_eq_error, firstFailure_cons, Node.render_eq_error_iff]
    refine or_congr_right ?_
    constructor
    · rintro ⟨text, ht, h⟩
      obtain h | ⟨texts, -, h⟩ := bind_eq_error.1 h
      · exact ⟨(Node.render_eq_ok_iff.1 ht).1, ih.1 h⟩
      · cases h
    · rintro ⟨sound, h⟩
      exact ⟨_, Node.render_eq_ok_iff.2 ⟨sound, rfl⟩, bind_eq_error.2 (.inl (ih.2 h))⟩

/-! ## Sources -/

/-- The nodes of a source in the scope of a selector, or why there are none. An empty selector is no
scope, and what is wrong with the source comes before what is wrong with the selector. -/
inductive ReadIn (source selector : String) : Except TemplateError (List Node) → Prop where
  | malformed {e} : Template.parse source = .error e → ReadIn source selector (.error e)
  | unscoped {t} : Template.parse source = .ok t → selector = "" →
      ReadIn source selector (.ok t.nodes)
  | unselected {t e} : Template.parse source = .ok t → selector ≠ "" →
      readSelector selector = .error e → ReadIn source selector (.error e)
  | selected {t scope} : Template.parse source = .ok t → selector ≠ "" →
      readSelector selector = .ok scope →
      ReadIn source selector (.ok (t.nodes.map (Node.redirect scope)))

theorem ReadIn.parseIn {read : Except TemplateError (List Node)} (h : ReadIn source selector read) :
    Template.parseIn source selector = Template.mk <$> read := by
  rw [Template.parseIn]
  cases h with
  | malformed hp => rw [hp]; rfl
  | unscoped hp hs => rw [hp, hs]; rfl
  | unselected hp hs he =>
    rw [hp]
    simp only [bind, Except.bind, String.isEmpty_iff, hs, if_false, Template.scoped, he]
    rfl
  | selected hp hs he =>
    rw [hp]
    simp only [bind, Except.bind, String.isEmpty_iff, hs, if_false, Template.scoped, he]
    rfl

theorem exists_readIn (source selector : String) : ∃ read, ReadIn source selector read := by
  cases hp : Template.parse source with
  | error e => exact ⟨_, .malformed hp⟩
  | ok t =>
    by_cases hs : selector = ""
    · exact ⟨_, .unscoped hp hs⟩
    · cases he : readSelector selector with
      | error e => exact ⟨_, .unselected hp hs he⟩
      | ok scope => exact ⟨_, .selected hp hs he⟩

/-- What the two expansions make of a source that is read. -/
structure Expanded (source selector : String) (root : Json) (nodes : List Node) : Prop where
  lenient : Template.expand source root selector = output root nodes
  strict : ∀ text, Template.tryExpand source root selector = .ok text ↔
    (∀ node ∈ nodes, ∀ e, ¬ node.Fails root e) ∧ text = output root nodes
  failure : ∀ e, Template.tryExpand source root selector = .error e ↔ FirstFailure root nodes e

theorem ReadIn.error {e : TemplateError} (h : ReadIn source selector (.error e)) (root : Json) :
    Template.expand source root selector = "" ∧
      Template.tryExpand source root selector = .error e := by
  rw [Template.expand, Template.tryExpand, h.parseIn]
  exact ⟨rfl, rfl⟩

theorem ReadIn.expanded (h : ReadIn source selector (.ok nodes)) (root : Json) :
    Expanded source selector root nodes := by
  have strict : Template.tryExpand source root selector = renderAll root nodes := by
    rw [Template.tryExpand, h.parseIn]
    rfl
  refine ⟨?_, fun text => ?_, fun e => ?_⟩
  · rw [Template.expand, h.parseIn]
    exact renderPresent_eq root nodes
  · rw [strict, renderAll_eq_ok_iff]
  · rw [strict, renderAll_eq_error_iff]

/-- A source or a selector that cannot be read expands to nothing, and strictly to its error. Otherwise
the parts of all nodes are put together; strictly only if no action fails, and with the failure of the first
one if some do. -/
theorem expansions_agree (source selector : String) :
    (∀ root text, Template.tryExpand source root selector = .ok text →
      Template.expand source root selector = text) ∧
    ∃ read, ReadIn source selector read ∧ ∀ root,
      (∀ e, read = .error e → Template.expand source root selector = "" ∧
        Template.tryExpand source root selector = .error e) ∧
      ∀ nodes, read = .ok nodes → Expanded source selector root nodes := by
  obtain ⟨read, h⟩ := exists_readIn source selector
  refine ⟨fun root text ht => ?_, read, h, fun root => ⟨?_, ?_⟩⟩
  · cases read with
    | error e => cases (h.error root).2.symm.trans ht
    | ok nodes =>
      have both := h.expanded root
      rw [both.lenient, ((both.strict text).1 ht).2]
  · rintro e rfl
    exact h.error root
  · rintro nodes rfl
    exact h.expanded root

/-- Of three actions the second and the third fail. -/
theorem expansions_agree_missing :
    let source := "\x7b\x7b.Id\x7d\x7d-\x7b\x7b.Nope\x7d\x7d-\x7b\x7bindex .Apps 3\x7d\x7d"
    let root := Json.object [("apps", .array []), ("id", .string "a")]
    Template.expand source root "" = "a--" ∧
      Template.tryExpand source root "" = .error (.missingField "Nope") := by
  intro source root
  let nodes : List Node := [.action [[.field ["Id"]]], .text "-", .action [[.field ["Nope"]]], .text "-",
    .action [[.function .index, .field ["Apps"], .int 3]]]
  have parsed : (Template.parseIn source "").toOption = some ⟨nodes⟩ := by decide +kernel
  obtain ⟨read, hr, h⟩ := (expansions_agree source "").2
  have all : read = .ok nodes := by
    rw [hr.parseIn] at parsed
    cases read with
    | error e => cases parsed
    | ok nodes =>
      cases parsed
      rfl
  have both := (h root).2 nodes all
  refine ⟨both.lenient.trans (by rfl), (both.failure _).2 ?_⟩
  refine ⟨[.action [[.field ["Id"]]], .text "-"], _, _, rfl, ?_, _, rfl, rfl⟩
  intro node hm
  have sound : ∃ text, node.render root = .ok text := by
    fin_cases hm
    · exact ⟨"a", rfl⟩
    · exact ⟨"-", rfl⟩
  obtain ⟨text, ht⟩ := sound
  exact (Node.render_eq_ok_iff.1 ht).1

end Template

end Rollout
