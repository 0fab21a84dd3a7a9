import Rollout.Proofs.Template.Alike
import Rollout.Proofs.Template.Layout

/-!
# Literals that are only written out

Where literals are changed, the value of an action changes with them as long as none of those that are
changed is looked at. A literal goes unseen through chains, groups and pipes and through the functions
that write their arguments out; every other function looks at what it is given.
-/

namespace Rollout.Template

/-! ## Literals that no function looks at -/

def Command.isPrinting : List Operand → Bool
  | .function .print :: _ | .function .printf :: _ => true
  | _ => false

mutual

/-- Whether no literal that passes a test is given to a function that looks at it. -/
def Operand.unseen (p : Operand → Bool) : Operand → Bool
  | .chain base _ => base.unseen p
  | .group commands => Pipeline.unseen p false commands
  | _ => true

def Command.unseen (p : Operand → Bool) : List Operand → Bool
  | [] => true
  | operand :: rest => operand.unseen p && Command.unseen p rest

/-- `held` says whether such a literal may be in the value that is piped into the first command. -/
def Pipeline.unseen (p : Operand → Bool) : (held : Bool) → List (List Operand) → Bool
  | _, [] => true
  | held, command :: rest =>
    Command.unseen p command &&
      (Command.isPrinting command || !(held || Command.mentions p command.tail)) &&
      Pipeline.unseen p (held || Command.mentions p command) rest

end

def Node.unseen (p : Operand → Bool) : Node → Bool
  | .text _ => true
  | .action pipeline => Pipeline.unseen p false pipeline

/-! ## Values and outcomes -/

variable {p : Operand → Bool} {r : String → String → Prop}

/-- Values that are the same, but for the strings they may be. -/
inductive ValuesAlike (r : String → String → Prop) : Json → Json → Prop where
  | same (value : Json) : ValuesAlike r value value
  | string {s t : String} : r s t → ValuesAlike r (.string s) (.string t)

inductive OutcomesAlike {ε α β : Type} (R : α → β → Prop) :
    Except ε α → Except ε β → Prop where
  | ok {a b} : R a b → OutcomesAlike R (.ok a) (.ok b)
  | error (e e' : ε) : OutcomesAlike R (.error e) (.error e')

section

variable {ε α β γ δ : Type} {R : α → β → Prop} {S : γ → δ → Prop}

theorem OutcomesAlike.bind {x : Except ε α} {y : Except ε β} {f : α → Except ε γ}
    {g : β → Except ε δ} (h : OutcomesAlike R x y) (hf : ∀ a b, R a b → OutcomesAlike S (f a) (g b)) :
    OutcomesAlike S (x >>= f) (y >>= g) := by
  cases h with
  | ok hr => exact hf _ _ hr
  | error e e' => exact .error e e'

theorem OutcomesAlike.imp {R' : α → β → Prop} {x : Except ε α} {y : Except ε β}
    (h : OutcomesAlike R x y) (hr : ∀ a b, R a b → R' a b) : OutcomesAlike R' x y := by
  cases h with
  | ok ha => exact .ok (hr _ _ ha)
  | error e e' => exact .error e e'

theorem OutcomesAlike.refl {R : α → α → Prop} (hr : ∀ a, R a a) (x : Except ε α) :
    OutcomesAlike R x x := by
  cases x with
  | ok a => exact .ok (hr a)
  | error e => exact .error e e

end

theorem walk_alike {value value' : Json} (h : ValuesAlike r value value') (path : List String) :
    OutcomesAlike (ValuesAlike r) (walk value path) (walk value' path) := by
  cases h with
  | same => exact .refl .same _
  | string hr =>
    cases path with
    | nil => exact .ok (.string hr)
    | cons name path => exact .error _ _

/-- A relation of texts that is kept when they are written out, and by which no literal is related to
another unless it passes a test. -/
structure Printable (p : Operand → Bool) (r : String → String → Prop) : Prop where
  eq (s t : String) : r s t → p (.text s) = false → s = t
  refl (s : String) : r s s
  append {s t s' t' : String} : r s t → r s' t' → r (s ++ s') (t ++ t')
  formatted {s t : String} {args args' : List Json} :
    r s t → List.Forall₂ (ValuesAlike r) args args' →
    r (String.ofList (formatted s.toList args)) (String.ofList (Template.formatted t.toList args'))

theorem ValuesAlike.isString_eq {value value' : Json} (h : ValuesAlike r value value') :
    value.isString = value'.isString := by
  cases h <;> rfl

theorem ValuesAlike.render (hr : ∀ s, r s s) {value value' : Json} (h : ValuesAlike r value value') :
    r (Template.render value) (Template.render value') := by
  cases h with
  | same => exact hr _
  | string ht => exact ht

theorem Printable.concatenated (hr : Printable p r) {values values' : List Json}
    (h : List.Forall₂ (ValuesAlike r) values values') :
    r (concatenated values) (Template.concatenated values') := by
  induction h with
  | nil => exact hr.refl ""
  | @cons value value' rest rest' hv hs ih =>
    cases hs with
    | nil => exact hv.render hr.refl
    | cons hn hs =>
      simp only [Template.concatenated]
      rw [← hv.isString_eq, ← hn.isString_eq]
      exact hr.append (hr.append (hv.render hr.refl) (hr.refl _)) ih

theorem Printable.call (hr : Printable p r) {builtin : Builtin} {rest : List Operand}
    (hb : Command.isPrinting (.function builtin :: rest) = true) {args args' : List Json}
    (h : List.Forall₂ (ValuesAlike r) args args') :
    OutcomesAlike (ValuesAlike r) (builtin.call args) (builtin.call args') := by
  cases builtin with
  | index | len => cases hb
  | print => exact .ok (.string (hr.concatenated h))
  | printf =>
    cases h with
    | nil => exact .error _ _
    | cons hv hs =>
      cases hv with
      | string hf => exact .ok (.string (hr.formatted hf hs))
      | same =>
        rename_i value _ _
        cases value with
        | string format => exact .ok (.string (hr.formatted (hr.refl format) hs))
        | null | bool | number | array | object => exact .error _ _

/-! ## Evaluation -/

section

variable {g : Operand → Operand}

theorem Command.exists_of_isPrinting {command : List Operand} (h : Command.isPrinting command = true) :
    ∃ builtin rest, command = .function builtin :: rest := by
  unfold Command.isPrinting at h
  split at h
  · exact ⟨_, _, rfl⟩
  · exact ⟨_, _, rfl⟩
  · cases h

theorem getD_alike {piped piped' : Option Json}
    (h : List.Forall₂ (ValuesAlike r) piped.toList piped'.toList) :
    ValuesAlike r (piped.getD .null) (piped'.getD .null) := by
  cases piped with
  | none =>
    cases piped' with
    | none => exact .same _
    | some => cases h
  | some value =>
    cases piped' with
    | none => cases h
    | some =>
      cases h with
      | cons hv => exact hv

mutual

theorem Operand.eval_alike (hr : Printable p r) (hg : Redirection g) (root : Json)
    {a b : Operand} (h : Operand.Alike r a b) (hu : a.unseen p = true) :
    OutcomesAlike (ValuesAlike r) ((g a).eval root) ((g b).eval root) := by
  match a with
  | .text s =>
    obtain ⟨t, rfl, ht⟩ := h
    rw [hg.text, hg.text]
    exact .ok (.string ht)
  | .chain base path =>
    obtain ⟨base', rfl, hb⟩ := h
    rw [hg.chain, hg.chain, Operand.eval, Operand.eval]
    exact (Operand.eval_alike hr hg root hb hu).bind fun _ _ hv => walk_alike hv path
  | .group commands =>
    obtain ⟨commands', rfl, hc⟩ := h
    rw [hg.group, hg.group, Operand.eval, Operand.eval]
    exact Pipeline.eval_alike hr hg root hc hu .nil fun _ => rfl
  | .dot | .field _ | .function _ | .int _ | .truth _ | .nothing =>
    cases h
    exact .refl .same _

theorem Operand.evalAll_alike (hr : Printable p r) (hg : Redirection g) (root : Json)
    {c d : List Operand} (h : Command.Alike r c d) (hu : Command.unseen p c = true) :
    OutcomesAlike (List.Forall₂ (ValuesAlike r)) (Operand.evalAll root (c.map g))
      (Operand.evalAll root (d.map g)) := by
  match c with
  | [] =>
    cases h
    exact .ok .nil
  | operand :: rest =>
    obtain ⟨operand', rest', rfl, ho, hc⟩ := h
    rw [Command.unseen, Bool.and_eq_true] at hu
    rw [List.map_cons, List.map_cons, Operand.evalAll, Operand.evalAll]
    refine (Operand.eval_alike hr hg root ho hu.1).bind fun _ _ hv => ?_
    exact (Operand.evalAll_alike hr hg root hc hu.2).bind fun _ _ hvs => .ok (.cons hv hvs)

theorem Command.eval_alike (hr : Printable p r) (hg : Redirection g) (root : Json)
    {c d : List Operand} (h : Command.Alike r c d) (hu : Command.unseen p c = true)
    {held : Bool} (hk : (Command.isPrinting c || !(held || Command.mentions p c.tail)) = true)
    {piped piped' : Option Json} (hv : List.Forall₂ (ValuesAlike r) piped.toList piped'.toList)
    (he : held = false → piped = piped') :
    OutcomesAlike (ValuesAlike r) (Command.eval root piped (c.map g))
      (Command.eval root piped' (d.map g)) := by
  match c with
  | [] =>
    cases h
    exact .error _ _
  | operand :: rest =>
    obtain ⟨operand', rest', rfl, ho, hc⟩ := h
    rw [Command.unseen, Bool.and_eq_true] at hu
    by_cases hi : Command.isPrinting (operand :: rest) = true
    -- The arguments may differ: they are only written out.
    · obtain ⟨builtin, _, hb⟩ := Command.exists_of_isPrinting hi
      cases hb
      cases ho
      simp only [List.map_cons, hg.function, Command.eval_function]
      refine (Operand.evalAll_alike hr hg root hc hu.2).bind fun _ _ hvs => ?_
      exact hr.call hi (List.rel_append hvs hv)
    -- The arguments are the same, and at most the operand in front of them differs.
    · rw [Bool.not_eq_true] at hi
      rw [hi, Bool.false_or, Bool.not_eq_true', Bool.or_eq_false_iff] at hk
      obtain rfl := he hk.1
      obtain rfl := hc.eq hr.eq hk.2
      have operands {a b : Operand} (ha : ∀ f, g a ≠ .function f) (hb : ∀ f, g b ≠ .function f)
          (hab : OutcomesAlike (ValuesAlike r) ((g a).eval root) ((g b).eval root)) :
          OutcomesAlike (ValuesAlike r) (Command.eval root piped ((a :: rest).map g))
            (Command.eval root piped ((b :: rest).map g)) := by
        rw [List.map_cons, List.map_cons, Command.eval_operand ha, Command.eval_operand hb]
        split
        · exact hab
        · exact .error _ _
      have hab := Operand.eval_alike hr hg root ho hu.1
      cases operand with
      | text s =>
        obtain ⟨t, rfl, -⟩ := ho
        exact operands (fun f => by rw [hg.text]; nofun) (fun f => by rw [hg.text]; nofun) hab
      | chain base path =>
        obtain ⟨base', rfl, -⟩ := ho
        exact operands (fun f => by rw [hg.chain]; nofun) (fun f => by rw [hg.chain]; nofun) hab
      | group commands =>
        obtain ⟨commands', rfl, -⟩ := ho
        exact operands (fun f => by rw [hg.group]; nofun) (fun f => by rw [hg.group]; nofun) hab
      | dot | field | function | int | truth | nothing =>
        cases ho
        exact .refl .same _

theorem Pipeline.eval_alike (hr : Printable p r) (hg : Redirection g) (root : Json)
    {c d : List (List Operand)} (h : Pipeline.Alike r c d) {held : Bool}
    (hu : Pipeline.unseen p held c = true) {piped piped' : Option Json}
    (hv : List.Forall₂ (ValuesAlike r) piped.toList piped'.toList)
    (he : held = false → piped = piped') :
    OutcomesAlike (ValuesAlike r) (Pipeline.eval root piped (c.map (·.map g)))
      (Pipeline.eval root piped' (d.map (·.map g))) := by
  match c with
  | [] =>
    cases h
    exact .ok (getD_alike hv)
  | command :: rest =>
    obtain ⟨command', rest', rfl, ho, hc⟩ := h
    simp only [Pipeline.unseen, Bool.and_eq_true] at hu
    obtain ⟨⟨hu, hk⟩, hrest⟩ := hu
    rw [List.map_cons, List.map_cons, Pipeline.eval, Pipeline.eval]
    have hcommand : OutcomesAlike (fun v v' => ValuesAlike r v v' ∧
        ((held || Command.mentions p command) = false → v = v'))
        (Command.eval root piped (command.map g)) (Command.eval root piped' (command'.map g)) := by
      cases hn : held || Command.mentions p command with
      | true => exact (Command.eval_alike hr hg root ho hu hk hv he).imp fun _ _ hvv => ⟨hvv, nofun⟩
      | false =>
        rw [Bool.or_eq_false_iff] at hn
        rw [he hn.1, ho.eq hr.eq hn.2]
        exact .refl (fun v => ⟨.same v, fun _ => rfl⟩) _
    refine hcommand.bind fun v v' hvv => ?_
    exact Pipeline.eval_alike hr hg root hc hrest (.cons hvv.1 .nil) fun hn =>
      congrArg some (hvv.2 hn)

end

mutual

theorem Operand.mentions_redirection (hg : Redirection g) (hp : ∀ a, p a = true → ∃ s, a = .text s)
    (a : Operand) (h : a.mentions p = true) : (g a).mentions p = true := by
  match a with
  | .text s => rwa [hg.text]
  | .chain base path =>
    rw [hg.chain]
    exact Operand.mentions_redirection hg hp base h
  | .group commands =>
    rw [hg.group]
    exact Pipeline.mentions_redirection hg hp commands h
  | .dot | .field _ | .function _ | .int _ | .truth _ | .nothing =>
    obtain ⟨s, hs⟩ := hp _ h
    cases hs

theorem Command.mentions_redirection (hg : Redirection g) (hp : ∀ a, p a = true → ∃ s, a = .text s)
    (c : List Operand) (h : Command.mentions p c = true) : Command.mentions p (c.map g) = true := by
  match c with
  | [] => cases h
  | operand :: rest =>
    rw [Command.mentions, Bool.or_eq_true] at h
    rw [List.map_cons, Command.mentions, Bool.or_eq_true]
    rcases h with h | h
    · exact .inl (Operand.mentions_redirection hg hp operand h)
    · exact .inr (Command.mentions_redirection hg hp rest h)

theorem Pipeline.mentions_redirection (hg : Redirection g) (hp : ∀ a, p a = true → ∃ s, a = .text s)
    (c : List (List Operand)) (h : Pipeline.mentions p c = true) :
    Pipeline.mentions p (c.map (·.map g)) = true := by
  match c with
  | [] => cases h
  | command :: rest =>
    rw [Pipeline.mentions, Bool.or_eq_true] at h
    rw [List.map_cons, Pipeline.mentions, Bool.or_eq_true]
    rcases h with h | h
    · exact .inl (Command.mentions_redirection hg hp command h)
    · exact .inr (Pipeline.mentions_redirection hg hp rest h)

end

end

end Rollout.Template
