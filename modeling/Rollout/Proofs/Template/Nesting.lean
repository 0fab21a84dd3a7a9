import Mathlib.Logic.Relation
import Rollout.Proofs.Template.Concatenation
import Rollout.Proofs.Template.Spelling

/-!
# Pipes as last arguments

A value that is piped into a command is the last argument of its function. So a pipeline has the value of
its last command alone, with all that is before the last pipe as a group behind its arguments, and any
pipeline of a template can be written in this way (`expand_nested`).
-/

namespace Rollout

theorem toOption_eq_iff {ε α : Type} {x y : Except ε α} :
    x.toOption = y.toOption ↔ ∀ a, x = .ok a ↔ y = .ok a := by
  constructor
  · intro h a
    rw [← toOption_eq_some, h, toOption_eq_some]
  · intro h
    apply Option.ext
    intro a
    rw [toOption_eq_some, toOption_eq_some, h a]

namespace Template

variable {root : Json} {p q : Pipeline}

/-! ## Nested pipelines -/

/-- The last command of a pipeline alone, what is piped into it as a group behind its arguments. -/
def Pipeline.nested : Pipeline → Pipeline
  | [] => []
  | command :: rest => [rest.foldl (fun inner outer => outer ++ [.group [inner]]) command]

theorem Pipeline.nested_concat (hp : p ≠ []) (c : Command) :
    Pipeline.nested (p ++ [c]) = [c ++ [.group (Pipeline.nested p)]] := by
  obtain ⟨first, rest, rfl⟩ := List.exists_cons_of_ne_nil hp
  rw [List.cons_append, nested, nested, List.foldl_concat]

theorem Operand.evalAll_append (root : Json) (front back : Command) :
    Operand.evalAll root (front ++ back) =
      Operand.evalAll root front >>= fun values =>
        Operand.evalAll root back >>= fun more => .ok (values ++ more) := by
  induction front with
  | nil => exact (bind_pure _).symm
  | cons operand front ih =>
    rw [List.cons_append, Operand.evalAll, Operand.evalAll, ih]
    cases operand.eval root with
    | error e => rfl
    | ok value =>
      cases Operand.evalAll root front with
      | error e => rfl
      | ok values => cases Operand.evalAll root back <;> rfl

/-- A group behind the arguments of a command does what is piped into it does. -/
theorem Command.eval_group (root : Json) {c : Command} (hc : c ≠ []) (q : Pipeline) :
    (Command.eval root none (c ++ [.group q])).toOption =
      (Pipeline.eval root none q >>= fun value => Command.eval root (some value) c).toOption := by
  obtain ⟨head, rest, rfl⟩ := List.exists_cons_of_ne_nil hc
  by_cases hf : ∀ f, head ≠ .function f
  · -- Neither a group behind it nor what is piped into it can be given to a head that is no function.
    have group : Command.eval root none (head :: (rest ++ [.group q])) = .error (.notAFunction head) := by
      rw [Command.eval_operand hf, if_neg (by simp)]
    have piped (value : Json) :
        Command.eval root (some value) (head :: rest) = .error (.notAFunction head) := by
      rw [Command.eval_operand hf, if_neg (by simp)]
    rw [List.cons_append, group]
    simp only [piped]
    cases Pipeline.eval root none q <;> rfl
  · obtain ⟨f, rfl⟩ := not_forall_not.1 hf
    simp only [List.cons_append, Command.eval_function, Operand.evalAll_append]
    cases hr : Operand.evalAll root rest with
    | error e => cases Pipeline.eval root none q <;> rfl
    | ok values =>
      have last : Operand.evalAll root [.group q] = (fun value => [value]) <$> Pipeline.eval root none q := by
        rw [Operand.evalAll, Operand.eval]
        cases Pipeline.eval root none q <;> rfl
      rw [last]
      cases Pipeline.eval root none q with
      | error e => rfl
      | ok value =>
        show (f.call (values ++ [value] ++ [])).toOption = (f.call (values ++ [value])).toOption
        rw [List.append_nil]

theorem Pipeline.eval_concat (piped : Option Json) (hp : p ≠ []) (c : Command) :
    Pipeline.eval root piped (p ++ [c]) =
      Pipeline.eval root piped p >>= fun value => Command.eval root (some value) c := by
  induction p generalizing piped with
  | nil => exact absurd rfl hp
  | cons first rest ih =>
    rw [List.cons_append, Pipeline.eval, Pipeline.eval, bind_assoc]
    congr 1
    funext value
    cases rest with
    | nil =>
      show (Command.eval root (some value) c >>= fun value => .ok value) =
        Command.eval root (some value) c
      exact bind_pure _
    | cons next rest => exact ih (some value) (List.cons_ne_nil next rest)

theorem Pipeline.eval_nested (root : Json) (hp : [] ∉ p) :
    (Pipeline.eval root none p).toOption = (Pipeline.eval root none (Pipeline.nested p)).toOption := by
  induction p using List.reverseRecOn with
  | nil => rfl
  | append_singleton p c ih =>
    rw [List.mem_append, not_or, List.mem_singleton] at hp
    by_cases he : p = []
    · rw [he]
      rfl
    · have single : Pipeline.eval root none [c ++ [.group (Pipeline.nested p)]] =
          Command.eval root none (c ++ [.group (Pipeline.nested p)]) := bind_pure _
      rw [Pipeline.nested_concat he, Pipeline.eval_concat none he, single,
        Command.eval_group root (Ne.symm hp.2), toOption_bind, toOption_bind, ih hp.1]

/-! ## Pipelines in operands -/

mutual

/-- An operand and the same with one of the pipelines in it nested. -/
inductive Operand.Nests : Operand → Operand → Prop where
  | chain {base base'} (path : List String) : Operand.Nests base base' →
      Operand.Nests (.chain base path) (.chain base' path)
  | group {commands commands'} : Pipeline.Nests commands commands' →
      Operand.Nests (.group commands) (.group commands')

/-- A pipeline and the same nested, or with a pipeline in one of its operands nested. -/
inductive Pipeline.Nests : Pipeline → Pipeline → Prop where
  | whole {commands} : [] ∉ commands → Pipeline.Nests commands (Pipeline.nested commands)
  | inside {operand operand'} (before : Pipeline) (front back : Command) (behind : Pipeline) :
      Operand.Nests operand operand' →
      Pipeline.Nests (before ++ (front ++ operand :: back) :: behind)
        (before ++ (front ++ operand' :: back) :: behind)

end

theorem Operand.Nests.ne_function {a b : Operand} (h : Operand.Nests a b) :
    (∀ f, a ≠ .function f) ∧ ∀ f, b ≠ .function f := by
  cases h <;> exact ⟨nofun, nofun⟩

theorem Command.eval_congr {a b : Operand} (ha : ∀ f, a ≠ .function f) (hb : ∀ f, b ≠ .function f)
    (h : (a.eval root).toOption = (b.eval root).toOption) (piped : Option Json) (front back : Command) :
    (Command.eval root piped (front ++ a :: back)).toOption =
      (Command.eval root piped (front ++ b :: back)).toOption := by
  cases front with
  | nil =>
    rw [List.nil_append, List.nil_append, Command.eval_operand ha, Command.eval_operand hb]
    split
    · exact h
    · rfl
  | cons head front =>
    by_cases hf : ∀ f, head ≠ .function f
    · rw [List.cons_append, List.cons_append, Command.eval_operand hf, Command.eval_operand hf,
        if_neg (by simp), if_neg (by simp)]
    · obtain ⟨f, rfl⟩ := not_forall_not.1 hf
      have args : (Operand.evalAll root (front ++ a :: back)).toOption =
          (Operand.evalAll root (front ++ b :: back)).toOption := by
        simp only [Operand.evalAll_append, Operand.evalAll, toOption_bind, h]
      rw [List.cons_append, List.cons_append, Command.eval_function, Command.eval_function,
        toOption_bind, toOption_bind, args]

theorem Pipeline.eval_congr {c d : Command}
    (h : ∀ piped, (Command.eval root piped c).toOption = (Command.eval root piped d).toOption)
    (piped : Option Json) (before behind : Pipeline) :
    (Pipeline.eval root piped (before ++ c :: behind)).toOption =
      (Pipeline.eval root piped (before ++ d :: behind)).toOption := by
  induction before generalizing piped with
  | nil => simp only [List.nil_append, Pipeline.eval, toOption_bind, h]
  | cons first before ih => simp only [List.cons_append, Pipeline.eval, toOption_bind, ih]

mutual

theorem Operand.Nests.eval_eq {a b : Operand} (h : Operand.Nests a b) :
    (a.eval root).toOption = (b.eval root).toOption := by
  match h with
  | .chain path h =>
    rw [Operand.eval, Operand.eval, toOption_bind, toOption_bind, Operand.Nests.eval_eq h]
  | .group h => exact Pipeline.Nests.eval_eq h

theorem Pipeline.Nests.eval_eq {p q : Pipeline} (h : Pipeline.Nests p q) :
    (Pipeline.eval root none p).toOption = (Pipeline.eval root none q).toOption := by
  match h with
  | .whole hp => exact Pipeline.eval_nested root hp
  | .inside before front back behind h =>
    obtain ⟨ha, hb⟩ := h.ne_function
    have inner := Operand.Nests.eval_eq h
    exact Pipeline.eval_congr (fun piped => Command.eval_congr ha hb inner piped front back) none before
      behind

end

/-! ## Scopes -/

section

variable {g : Operand → Operand} {f : Node → Node} {selector : String}

theorem Pipeline.nested_map (hg : Redirection g) (p : Pipeline) :
    Pipeline.nested (p.map (·.map g)) = (Pipeline.nested p).map (·.map g) := by
  induction p using List.reverseRecOn with
  | nil => rfl
  | append_singleton p c ih =>
    by_cases he : p = []
    · rw [he]
      rfl
    · have hm : p.map (·.map g) ≠ [] := by rwa [Ne, List.map_eq_nil_iff]
      rw [Pipeline.nested_concat he, List.map_append, List.map_singleton, Pipeline.nested_concat hm, ih]
      simp [hg.group]

mutual

theorem Operand.Nests.redirect (hg : Redirection g) {a b : Operand} (h : Operand.Nests a b) :
    Operand.Nests (g a) (g b) := by
  match h with
  | .chain path h =>
    rw [hg.chain, hg.chain]
    exact .chain path (Operand.Nests.redirect hg h)
  | .group h =>
    rw [hg.group, hg.group]
    exact .group (Pipeline.Nests.redirect hg h)

theorem Pipeline.Nests.redirect (hg : Redirection g) {p q : Pipeline} (h : Pipeline.Nests p q) :
    Pipeline.Nests (p.map (·.map g)) (q.map (·.map g)) := by
  match h with
  | .whole hp =>
    rw [← Pipeline.nested_map hg]
    refine .whole fun hm => ?_
    obtain ⟨c, hc, he⟩ := List.mem_map.1 hm
    rw [List.map_eq_nil_iff] at he
    exact hp (he ▸ hc)
  | .inside before front back behind h =>
    simp only [List.map_append, List.map_cons]
    exact .inside _ _ _ _ (Operand.Nests.redirect hg h)

end

/-! ## Templates -/

/-- A node and the same with pipelines in it nested, as often as one likes. -/
inductive Node.Nests : Node → Node → Prop where
  | text (value : String) : Nests (.text value) (.text value)
  | action {pipeline pipeline'} : Relation.ReflTransGen Pipeline.Nests pipeline pipeline' →
      Nests (.action pipeline) (.action pipeline')

theorem Node.Nests.render_eq (hf : Leads selector f) {a b : Node} (h : a.Nests b) :
    ((f a).render root).toOption = ((f b).render root).toOption := by
  cases h with
  | text => rfl
  | @action p q h =>
    obtain ⟨g, hg, action⟩ := hf.action
    have values : (Pipeline.eval root none (p.map (·.map g))).toOption =
        (Pipeline.eval root none (q.map (·.map g))).toOption := by
      induction h with
      | refl => rfl
      | tail _ hn ih => exact ih.trans (hn.redirect hg).eval_eq
    have render (p : Pipeline) : (Node.render root (.action p)).toOption =
        (Pipeline.eval root none p).toOption.map Template.render := by
      rw [Node.render]
      cases Pipeline.eval root none p <;> rfl
    rw [action, action, render, render, values]

theorem render_of_forall₂ {nodes nodes' : List Node}
    (h : List.Forall₂ (fun a b => (a.render root).toOption = (b.render root).toOption) nodes nodes') :
    renderPresent root nodes = renderPresent root nodes' ∧
      (renderAll root nodes).toOption = (renderAll root nodes').toOption := by
  induction h with
  | nil => exact ⟨rfl, rfl⟩
  | cons hn _ ih =>
    constructor
    · rw [renderPresent_cons, renderPresent_cons, hn, ih.1]
    · simp only [renderAll, toOption_bind, hn, ih.2]

end

theorem allWellFormed_of_parse {source : String} {t : Template} (h : Template.parse source = .ok t)
    (hp : .action p ∈ t.nodes) : Pipeline.allWellFormed (fun _ => true) p = true := by
  obtain ⟨body, tokens, closing, -, hr⟩ := (parse_iff.1 h).exists_read hp
  obtain ⟨-, hw⟩ := tokensRead_iff.1 hr
  rw [Pipeline.wellFormed, Bool.and_eq_true] at hw
  exact Pipeline.allWellFormed_mono (fun _ _ => rfl) hw.2

/-- A pipeline without empty commands has the value of its nested form, all pipelines that are read are
without them at every depth, and a template expands to the same with any of its pipelines nested. -/
theorem expand_nested :
    (∀ (root : Json) (p : Pipeline), [] ∉ p →
      ∀ v, Pipeline.eval root none p = .ok v ↔ Pipeline.eval root none (Pipeline.nested p) = .ok v) ∧
    (∀ (source : String) (t : Template), Template.parse source = .ok t →
      ∀ p, .action p ∈ t.nodes → Pipeline.allWellFormed (fun _ => true) p = true) ∧
    ∀ (source source' : String) (t t' : Template), Template.parse source = .ok t →
      Template.parse source' = .ok t' → List.Forall₂ Node.Nests t.nodes t'.nodes →
      ∀ (root : Json) (selector : String),
        Template.expand source root selector = Template.expand source' root selector ∧
          ∀ text, Template.tryExpand source root selector = .ok text ↔
            Template.tryExpand source' root selector = .ok text := by
  refine ⟨fun root p hp => toOption_eq_iff.1 (Pipeline.eval_nested root hp),
    fun source t h p hp => allWellFormed_of_parse h hp, ?_⟩
  intro source source' t t' ht ht' nests root selector
  rw [← toOption_eq_iff]
  by_cases scope : selector = "" ∨ ∃ scope, readSelector selector = .ok scope
  · obtain ⟨f, hf⟩ := exists_leads_of_scope scope
    rw [hf.expand ht, hf.expand ht', hf.tryExpand ht, hf.tryExpand ht']
    apply render_of_forall₂
    rw [List.forall₂_map_left_iff, List.forall₂_map_right_iff]
    exact nests.imp fun _ _ h => h.render_eq hf
  · obtain ⟨named, unread⟩ := not_or.1 scope
    cases he : readSelector selector with
    | ok scope => exact absurd ⟨scope, he⟩ unread
    | error e =>
      obtain ⟨lenient, strict⟩ := (ReadIn.unselected ht named he).error root
      obtain ⟨lenient', strict'⟩ := (ReadIn.unselected ht' named he).error root
      rw [lenient, lenient', strict, strict']
      exact ⟨rfl, rfl⟩

/-- Three commands in a group, and the last of them with the others in its own. -/
theorem expand_nested_length :
    let p : Pipeline := [[.field ["Env"]], [.function .printf, .text "%s-%s", .field ["Id"]],
      [.function .len]]
    let source := "\x7b\x7bprint (.Env | printf \"%s-%s\" .Id | len)\x7d\x7d"
    let source' := "\x7b\x7bprint (len (printf \"%s-%s\" .Id (.Env)))\x7d\x7d"
    let root := Json.object [("env", .string "test"), ("id", .string "0")]
    (∀ v, Pipeline.eval root none p = .ok v ↔ Pipeline.eval root none (Pipeline.nested p) = .ok v) ∧
      Pipeline.allWellFormed (fun _ => true) [[.function .print, .group p]] = true ∧
      Template.expand source root "" = Template.expand source' root "" ∧
      Template.expand source' root "" = "6" := by
  intro p source source' root
  obtain ⟨values, filled, expansions⟩ := expand_nested
  have parsed : (Template.parse source).toOption =
      some ⟨[.action [[.function .print, .group p]]]⟩ := by decide +kernel
  have parsed' : (Template.parse source').toOption =
      some ⟨[.action [[.function .print, .group (Pipeline.nested p)]]]⟩ := by decide +kernel
  rw [toOption_eq_some] at parsed parsed'
  have full : [] ∉ p := by decide +kernel
  have nests : Pipeline.Nests [[.function .print, .group p]]
      [[.function .print, .group (Pipeline.nested p)]] :=
    .inside [] [.function .print] [] [] (.group (.whole full))
  have same := expansions source source' _ _ parsed parsed' (.cons (.action (.single nests)) .nil) root ""
  exact ⟨values root p full, filled source _ parsed _ List.mem_cons_self, same.1, by decide +kernel⟩

end Template

end Rollout
