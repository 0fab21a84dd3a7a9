import Mathlib
import Rollout.Proofs.Template.Mention
import Rollout.Template.Eval

/-!
# Scopes as substitution

Leading every path `.App` through a selector is a substitution: it says the same as giving the value
of the selector to the root under this key. A selector without a value empties the actions that need
it, and no others.
-/

namespace Rollout

/-! ## Setting a member -/

namespace Json

/-- The members of a record with one of them set, in the order of their keys. -/
def setMember (key : String) (value : Json) (members : List (String × Json)) :
    List (String × Json) :=
  insertMember key value (members.filter (·.1 ≠ key))

theorem lookup_insertMember_ne {key name : String} (h : name ≠ key) (value : Json)
    (members : List (String × Json)) :
    (insertMember key value members).lookup name = members.lookup name := by
  induction members with
  | nil => rw [insertMember, List.lookup_cons, beq_eq_false_iff_ne.2 h]
  | cons m rest ih =>
    obtain ⟨k, v⟩ := m
    rw [insertMember]
    split
    · rw [List.lookup_cons, beq_eq_false_iff_ne.2 h]
    · split
      · rfl
      · rw [List.lookup_cons, ih, List.lookup_cons]

theorem lookup_insertMember_self {key : String} (value : Json) {members : List (String × Json)}
    (h : ∀ m ∈ members, m.1 ≠ key) : (insertMember key value members).lookup key = some value := by
  induction members with
  | nil => rw [insertMember, List.lookup_cons, beq_self_eq_true]
  | cons m rest ih =>
    obtain ⟨k, v⟩ := m
    have hk : key ≠ k := (h _ List.mem_cons_self).symm
    rw [insertMember]
    split
    · rw [List.lookup_cons, beq_self_eq_true]
    · rw [List.lookup_cons, beq_eq_false_iff_ne.2 hk]
      exact ih fun m hm => h m (List.mem_cons_of_mem _ hm)

theorem lookup_filter_ne {key name : String} (h : name ≠ key) (members : List (String × Json)) :
    (members.filter (·.1 ≠ key)).lookup name = members.lookup name := by
  induction members with
  | nil => rfl
  | cons m rest ih =>
    obtain ⟨k, v⟩ := m
    rw [List.filter_cons]
    split
    · rw [List.lookup_cons, ih, List.lookup_cons]
    · rename_i hk
      have hk : k = key := by simpa using hk
      rw [ih, List.lookup_cons, beq_eq_false_iff_ne.2 (hk ▸ h)]

theorem lookup_setMember (key name : String) (value : Json) (members : List (String × Json)) :
    (setMember key value members).lookup name =
      if name = key then some value else members.lookup name := by
  split
  · rename_i h
    rw [h, setMember, lookup_insertMember_self]
    intro m hm
    simpa using (List.mem_filter.1 hm).2
  · rename_i h
    rw [setMember, lookup_insertMember_ne h, lookup_filter_ne h]

end Json

namespace Template

open Text

/-! ## Names and the key of the scope -/

theorem upperCaseRuns_lower : ∀ r ∈ upperCaseRuns, 0x41 < r.2.2.2 := by
  decide +kernel

theorem ofNat_ne_A {n : Nat} (h : 0x41 < n) : Char.ofNat n ≠ 'A' := by
  intro hc
  have hn := congrArg Char.toNat hc
  rw [Char.toNat_ofNat] at hn
  have : 'A'.toNat = 0x41 := rfl
  split at hn <;> omega

theorem toLower_ne_A (c : Char) : c.toLower ≠ 'A' := by
  intro h
  have hu := Char.isUpper_toLower_eq_false c
  rw [h] at hu
  cases hu

/-- No letter has the capital A in its lower-case form. -/
theorem lowerCase_ne_A (c : Char) : 'A' ∉ lowerCase c := by
  intro h
  unfold lowerCase at h
  simp only at h
  split at h
  · exact toLower_ne_A c (List.mem_singleton.1 h).symm
  · rename_i hn
    split at h
    · revert h
      decide
    · split at h
      · rename_i first last step lower hr
        have hl := upperCaseRuns_lower _ (List.mem_of_find?_eq_some hr)
        exact ofNat_ne_A (Nat.lt_add_right _ hl) (List.mem_singleton.1 h).symm
      · cases List.mem_singleton.1 h
        exact hn (by decide)

theorem lowerCase_ne_nil (c : Char) : lowerCase c ≠ [] := by
  unfold lowerCase
  simp only
  split
  · exact List.cons_ne_nil _ _
  · split
    · exact List.cons_ne_nil _ _
    · split <;> exact List.cons_ne_nil _ _

theorem documentKey_ne_appRoot (name : String) : documentKey name ≠ appRoot := by
  intro h
  have hl : lowerFirst name.toList = ['A', 'p', 'p'] := by
    have := congrArg String.toList h
    rwa [documentKey, String.toList_ofList] at this
  cases hn : name.toList with
  | nil =>
    rw [hn] at hl
    cases hl
  | cons c cs =>
    obtain ⟨d, ds, hd⟩ := List.exists_cons_of_ne_nil (lowerCase_ne_nil c)
    rw [hn, lowerFirst, hd, List.cons_append, List.cons.injEq] at hl
    exact lowerCase_ne_A c (by rw [hd, hl.1]; exact List.mem_cons_self)

theorem lookup?_setMember (value : Json) (members : List (String × Json)) (name : String) :
    lookup? (Json.setMember appRoot value members) name =
      if name = appRoot then some value else lookup? members name := by
  rw [lookup?, Json.lookup_setMember, Json.lookup_setMember, if_neg (documentKey_ne_appRoot name)]
  split
  · rfl
  · rfl

theorem walk_setMember (value : Json) (members : List (String × Json)) (name : String)
    (path : List String) :
    walk (.object (Json.setMember appRoot value members)) (name :: path) =
      if name = appRoot then walk value path else walk (.object members) (name :: path) := by
  rw [walk, walk, fieldOf, fieldOf, lookup?_setMember]
  by_cases h : name = appRoot
  · rw [if_pos h, if_pos h]
    rfl
  · rw [if_neg h, if_neg h]

/-! ## Commands -/

theorem Command.redirect_isEmpty (scope : Operand) (command : Command) :
    (Command.redirect scope command).isEmpty = command.isEmpty := by
  cases command <;> rfl

theorem redirectPath_app (scope : Operand) (path : List String) :
    redirectPath scope (appRoot :: path) = if path.isEmpty then scope else .chain scope path := by
  simp only [redirectPath, if_pos]

theorem redirectPath_ne (scope : Operand) {name : String} (h : name ≠ appRoot)
    (path : List String) : redirectPath scope (name :: path) = .field (name :: path) :=
  if_neg h

theorem Operand.redirect_ne_function {scope operand : Operand} (hs : ∀ b, scope ≠ .function b)
    (h : ∀ b, operand ≠ .function b) (b : Builtin) :
    Operand.redirect scope operand ≠ .function b := by
  cases operand with
  | function b' => exact absurd rfl (h b')
  | field path =>
    change redirectPath scope path ≠ .function b
    cases path with
    | nil => nofun
    | cons name path =>
      by_cases hn : name = appRoot
      · rw [hn, redirectPath_app]
        split
        · exact hs b
        · nofun
      · rw [redirectPath_ne scope hn]
        nofun
  | _ => nofun

/-! ## A selector with a value -/

/-- Whether an operand is the root as a whole. -/
def Operand.isDot : Operand → Bool
  | .dot => true
  | _ => false

def Operand.isEmptyPath : Operand → Bool
  | .field path => path.isEmpty
  | _ => false

/-- Whether an operand is a path from the key of the scope. -/
def Operand.isApp : Operand → Bool
  | .field (name :: _) => name = appRoot
  | _ => false

/-- Whether a root has a value under the key of the scope and is like another root elsewhere. -/
def Rebinds (root root' value : Json) : Prop :=
  ∀ name path, walk root' (name :: path) =
    if name = appRoot then walk value path else walk root (name :: path)

section

variable {scope : Operand} {root root' value : Json}

theorem eval_redirectPath (he : scope.eval root = .ok value) (hr : Rebinds root root' value)
    (name : String) (path : List String) :
    (redirectPath scope (name :: path)).eval root = walk root' (name :: path) := by
  rw [hr]
  by_cases h : name = appRoot
  · rw [if_pos h, h, redirectPath_app]
    cases path with
    | nil => exact he
    | cons name' path =>
      change (do walk (← scope.eval root) (name' :: path)) = _
      rw [he]
      rfl
  · rw [if_neg h, redirectPath_ne scope h]
    rfl

mutual

theorem Operand.eval_redirect (hs : ∀ b, scope ≠ .function b) (he : scope.eval root = .ok value)
    (hr : Rebinds root root' value) (operand : Operand)
    (hd : operand.mentions Operand.isDot = false)
    (hp : operand.mentions Operand.isEmptyPath = false) :
    ((Operand.redirect scope operand).eval root).toOption = (operand.eval root').toOption := by
  match operand with
  | .dot => exact absurd hd (by decide)
  | .field [] => exact absurd hp (by simp [Operand.mentions, Operand.isEmptyPath])
  | .field (name :: path) => exact congrArg Except.toOption (eval_redirectPath he hr name path)
  | .chain base path =>
    simp only [Operand.mentions] at hd hp
    simp only [Operand.redirect, Operand.eval, toOption_bind,
      Operand.eval_redirect hs he hr base hd hp]
  | .group commands =>
    simp only [Operand.mentions] at hd hp
    simp only [Operand.redirect, Operand.eval, Pipeline.eval_redirect hs he hr commands hd hp none]
  | .function _ | .int _ | .text _ | .truth _ | .nothing =>
    simp only [Operand.redirect, Operand.eval]

theorem Operand.evalAll_redirect (hs : ∀ b, scope ≠ .function b) (he : scope.eval root = .ok value)
    (hr : Rebinds root root' value) (operands : List Operand)
    (hd : Command.mentions Operand.isDot operands = false)
    (hp : Command.mentions Operand.isEmptyPath operands = false) :
    (Operand.evalAll root (Command.redirect scope operands)).toOption =
      (Operand.evalAll root' operands).toOption := by
  match operands with
  | [] => simp only [Command.redirect, Operand.evalAll]
  | operand :: rest =>
    rw [Command.mentions, Bool.or_eq_false_iff] at hd hp
    simp only [Command.redirect, Operand.evalAll, toOption_bind,
      Operand.eval_redirect hs he hr operand hd.1 hp.1,
      Operand.evalAll_redirect hs he hr rest hd.2 hp.2]

theorem Command.eval_redirect (hs : ∀ b, scope ≠ .function b) (he : scope.eval root = .ok value)
    (hr : Rebinds root root' value) (command : List Operand)
    (hd : Command.mentions Operand.isDot command = false)
    (hp : Command.mentions Operand.isEmptyPath command = false) (piped : Option Json) :
    (Command.eval root piped (Command.redirect scope command)).toOption =
      (Command.eval root' piped command).toOption := by
  match command with
  | [] => simp only [Command.redirect, Command.eval]
  | head :: rest =>
    rw [Command.mentions, Bool.or_eq_false_iff] at hd hp
    by_cases hf : ∃ b, head = .function b
    · obtain ⟨b, rfl⟩ := hf
      simp only [Command.redirect, Operand.redirect, Command.eval_function, toOption_bind,
        Operand.evalAll_redirect hs he hr rest hd.2 hp.2]
    · rw [not_exists] at hf
      rw [Command.redirect, Command.eval_operand (Operand.redirect_ne_function hs hf),
        Command.eval_operand hf, Command.redirect_isEmpty]
      split
      · exact Operand.eval_redirect hs he hr head hd.1 hp.1
      · rfl

theorem Pipeline.eval_redirect (hs : ∀ b, scope ≠ .function b) (he : scope.eval root = .ok value)
    (hr : Rebinds root root' value) (commands : List (List Operand))
    (hd : Pipeline.mentions Operand.isDot commands = false)
    (hp : Pipeline.mentions Operand.isEmptyPath commands = false) (piped : Option Json) :
    (Pipeline.eval root piped (Pipeline.redirect scope commands)).toOption =
      (Pipeline.eval root' piped commands).toOption := by
  match commands with
  | [] => simp only [Pipeline.redirect, Pipeline.eval]
  | command :: rest =>
    rw [Pipeline.mentions, Bool.or_eq_false_iff] at hd hp
    simp only [Pipeline.redirect, Pipeline.eval, toOption_bind,
      Command.eval_redirect hs he hr command hd.1 hp.1 piped]
    congr 1
    funext v
    exact Pipeline.eval_redirect hs he hr rest hd.2 hp.2 (some v)

end

/-! ## A selector without a value -/

mutual

theorem Operand.redirect_eq_self (scope operand : Operand)
    (h : operand.mentions Operand.isApp = false) : Operand.redirect scope operand = operand := by
  match operand with
  | .field [] => rfl
  | .field (name :: path) =>
    have hn : name ≠ appRoot := by simpa [Operand.mentions, Operand.isApp] using h
    exact redirectPath_ne scope hn path
  | .chain base path =>
    simp only [Operand.mentions] at h
    simp only [Operand.redirect, Operand.redirect_eq_self scope base h]
  | .group commands =>
    simp only [Operand.mentions] at h
    simp only [Operand.redirect, Pipeline.redirect_eq_self scope commands h]
  | .dot | .function _ | .int _ | .text _ | .truth _ | .nothing => simp only [Operand.redirect]

theorem Command.redirect_eq_self (scope : Operand) (command : List Operand)
    (h : Command.mentions Operand.isApp command = false) :
    Command.redirect scope command = command := by
  match command with
  | [] => simp only [Command.redirect]
  | operand :: rest =>
    rw [Command.mentions, Bool.or_eq_false_iff] at h
    rw [Command.redirect, Operand.redirect_eq_self scope operand h.1,
      Command.redirect_eq_self scope rest h.2]

theorem Pipeline.redirect_eq_self (scope : Operand) (commands : List (List Operand))
    (h : Pipeline.mentions Operand.isApp commands = false) :
    Pipeline.redirect scope commands = commands := by
  match commands with
  | [] => simp only [Pipeline.redirect]
  | command :: rest =>
    rw [Pipeline.mentions, Bool.or_eq_false_iff] at h
    rw [Pipeline.redirect, Command.redirect_eq_self scope command h.1,
      Pipeline.redirect_eq_self scope rest h.2]

end

theorem eval_redirectPath_none (he : (scope.eval root).toOption = none) (path : List String) :
    ((redirectPath scope (appRoot :: path)).eval root).toOption = none := by
  rw [redirectPath_app]
  split
  · exact he
  · rw [Operand.eval, toOption_bind, he, Option.bind_none]

mutual

theorem Operand.eval_redirect_none (hs : ∀ b, scope ≠ .function b)
    (he : (scope.eval root).toOption = none) (operand : Operand)
    (h : operand.mentions Operand.isApp = true) :
    ((Operand.redirect scope operand).eval root).toOption = none := by
  match operand with
  | .field [] => exact absurd h (by simp [Operand.mentions, Operand.isApp])
  | .field (name :: path) =>
    have hn : name = appRoot := by simpa [Operand.mentions, Operand.isApp] using h
    rw [hn]
    exact eval_redirectPath_none he path
  | .chain base path =>
    simp only [Operand.mentions] at h
    simp only [Operand.redirect, Operand.eval, toOption_bind,
      Operand.eval_redirect_none hs he base h, Option.bind_none]
  | .group commands =>
    simp only [Operand.mentions] at h
    simp only [Operand.redirect, Operand.eval, Pipeline.eval_redirect_none hs he commands h none]
  | .dot | .function _ | .int _ | .text _ | .truth _ | .nothing =>
    exact absurd h (by simp [Operand.mentions, Operand.isApp])

theorem Operand.evalAll_redirect_none (hs : ∀ b, scope ≠ .function b)
    (he : (scope.eval root).toOption = none) (operands : List Operand)
    (h : Command.mentions Operand.isApp operands = true) :
    (Operand.evalAll root (Command.redirect scope operands)).toOption = none := by
  match operands with
  | [] => cases h
  | operand :: rest =>
    rw [Command.mentions, Bool.or_eq_true] at h
    rw [Command.redirect, Operand.evalAll, toOption_bind]
    rcases h with h | h
    · rw [Operand.eval_redirect_none hs he operand h, Option.bind_none]
    · simp only [toOption_bind, Operand.evalAll_redirect_none hs he rest h, Option.bind_none,
        Option.bind_fun_none]

theorem Command.eval_redirect_none (hs : ∀ b, scope ≠ .function b)
    (he : (scope.eval root).toOption = none) (command : List Operand)
    (h : Command.mentions Operand.isApp command = true) (piped : Option Json) :
    (Command.eval root piped (Command.redirect scope command)).toOption = none := by
  match command with
  | [] => cases h
  | head :: rest =>
    rw [Command.mentions, Bool.or_eq_true] at h
    by_cases hf : ∃ b, head = .function b
    · obtain ⟨b, rfl⟩ := hf
      have hr : Command.mentions Operand.isApp rest = true := by
        simpa [Operand.mentions, Operand.isApp] using h
      simp only [Command.redirect, Operand.redirect, Command.eval_function, toOption_bind,
        Operand.evalAll_redirect_none hs he rest hr, Option.bind_none]
    · rw [not_exists] at hf
      rw [Command.redirect, Command.eval_operand (Operand.redirect_ne_function hs hf),
        Command.redirect_isEmpty]
      split
      · rename_i ha
        rcases h with h | h
        · exact Operand.eval_redirect_none hs he head h
        · cases rest with
          | nil => cases h
          | cons => cases ha
      · rfl

theorem Pipeline.eval_redirect_none (hs : ∀ b, scope ≠ .function b)
    (he : (scope.eval root).toOption = none) (commands : List (List Operand))
    (h : Pipeline.mentions Operand.isApp commands = true) (piped : Option Json) :
    (Pipeline.eval root piped (Pipeline.redirect scope commands)).toOption = none := by
  match commands with
  | [] => cases h
  | command :: rest =>
    rw [Pipeline.mentions, Bool.or_eq_true] at h
    rw [Pipeline.redirect, Pipeline.eval, toOption_bind]
    rcases h with h | h
    · rw [Command.eval_redirect_none hs he command h piped, Option.bind_none]
    · have hr (v : Json) := Pipeline.eval_redirect_none hs he rest h (some v)
      simp only [hr, Option.bind_fun_none]

end

end

/-! ## Nodes -/

theorem Node.render_redirect {scope : Operand} {root root' value : Json}
    (hs : ∀ b, scope ≠ .function b) (he : scope.eval root = .ok value)
    (hr : Rebinds root root' value) {node : Node} (hd : node.mentions Operand.isDot = false)
    (hp : node.mentions Operand.isEmptyPath = false) :
    ((node.redirect scope).render root).toOption = (node.render root').toOption := by
  cases node with
  | text text => rfl
  | action pipeline =>
    have map (x : Except TemplateError Json) :
        (Template.render <$> x).toOption = x.toOption.map Template.render := by
      cases x <;> rfl
    simp only [Node.redirect, Node.render, map, Pipeline.eval_redirect hs he hr pipeline hd hp none]

theorem Node.render_redirect_none {scope : Operand} {root : Json} (hs : ∀ b, scope ≠ .function b)
    (he : (scope.eval root).toOption = none) (node : Node) :
    ((node.redirect scope).render root).toOption =
      if node.mentions Operand.isApp then none else (node.render root).toOption := by
  cases node with
  | text text => rfl
  | action pipeline =>
    split
    · rename_i h
      have hn := Pipeline.eval_redirect_none hs he pipeline h none
      obtain ⟨e, hf⟩ := toOption_eq_none.1 hn
      rw [Node.redirect, Node.render, hf]
      rfl
    · rename_i h
      rw [Bool.not_eq_true] at h
      rw [Node.redirect, Pipeline.redirect_eq_self scope pipeline h]

/-! ## Templates -/

theorem renderPresent_cons (root : Json) (node : Node) (rest : List Node) :
    renderPresent root (node :: rest) =
      ((node.render root).toOption).getD "" ++ renderPresent root rest := by
  rw [renderPresent]
  cases node.render root with
  | error e => exact (String.empty_append).symm
  | ok text => rfl

theorem renderPresent_congr {root root' : Json} {f : Node → Node} {nodes : List Node}
    (h : ∀ node ∈ nodes, ((f node).render root).toOption = (node.render root').toOption) :
    renderPresent root (nodes.map f) = renderPresent root' nodes := by
  induction nodes with
  | nil => rfl
  | cons node rest ih =>
    rw [List.map_cons, renderPresent_cons, renderPresent_cons, h node List.mem_cons_self,
      ih fun node hm => h node (List.mem_cons_of_mem _ hm)]

theorem renderAll_congr {root root' : Json} {f : Node → Node} {nodes : List Node}
    (h : ∀ node ∈ nodes, ((f node).render root).toOption = (node.render root').toOption) :
    (renderAll root (nodes.map f)).toOption = (renderAll root' nodes).toOption := by
  induction nodes with
  | nil => rfl
  | cons node rest ih =>
    simp only [List.map_cons, renderAll, toOption_bind, h node List.mem_cons_self,
      ih fun node hm => h node (List.mem_cons_of_mem _ hm)]

theorem renderPresent_without {root : Json} {p : Node → Bool} {nodes nodes' : List Node}
    (h : List.Forall₂ (fun node node' => (node'.render root).toOption =
      if p node then none else (node.render root).toOption) nodes nodes') :
    renderPresent root nodes' = renderPresent root (nodes.filter (!p ·)) := by
  induction h with
  | nil => rfl
  | @cons node node' rest rest' hn _ ih =>
    rw [renderPresent_cons, List.filter_cons, ih, hn]
    cases p node with
    | true => exact String.empty_append
    | false => rw [Bool.not_false, if_pos rfl, renderPresent_cons, if_neg Bool.false_ne_true]

theorem unscanned_isEmptyPath : Unscanned Operand.isEmptyPath := by
  rintro token operand ⟨glued, s, rest, hs⟩ ho
  cases token with
  | field path =>
    cases ho
    cases path with
    | nil => exact absurd rfl (scanToken_path hs rfl).1
    | cons name path => rfl
  | ident name =>
    obtain ⟨b, -, rfl⟩ := Option.map_eq_some_iff.1 ho
    rfl
  | chain | openGroup | closeGroup | pipe => cases ho
  | dot | int | text | truth | nothing =>
    cases ho
    rfl

/-- Rendering in the scope of a selector is rendering with the selector's value under the key of the
scope. If it has no value, the actions that need it are left out. -/
theorem render_scoped {source selector : String} {t : Template} {scope : Operand}
    (read : Template.parse source = .ok t) (selected : readSelector selector = .ok scope)
    (single : ∀ b, scope ≠ .function b) (members : List (String × Json)) :
    ∃ led, t.scoped selector = .ok led ∧
      (∀ value, scope.eval (.object members) = .ok value →
        (∀ node ∈ t.nodes, node.mentions Operand.isDot = false) →
        let root' := Json.object (Json.setMember appRoot value members)
        renderPresent (.object members) led.nodes = renderPresent root' t.nodes ∧
          ∀ text, renderAll (.object members) led.nodes = .ok text ↔
            renderAll root' t.nodes = .ok text) ∧
      (∀ e, scope.eval (.object members) = .error e →
        List.Forall₂ (fun node node' => (node'.render (.object members)).toOption =
          if node.mentions Operand.isApp then none else (node.render (.object members)).toOption)
          t.nodes led.nodes ∧
        renderPresent (.object members) led.nodes =
          renderPresent (.object members) (t.nodes.filter (!·.mentions Operand.isApp))) := by
  refine ⟨⟨t.nodes.map (Node.redirect scope)⟩, bind_eq_ok.2 ⟨scope, selected, rfl⟩, ?_, ?_⟩
  · intro value he hd root'
    have hr : Rebinds (.object members) root' value := walk_setMember value members
    have hp := (parse_iff.1 read).mentions unscanned_isEmptyPath
    have hn : ∀ node ∈ t.nodes,
        ((Node.redirect scope node).render (.object members)).toOption =
          (node.render root').toOption :=
      fun node hm => Node.render_redirect single he hr (hd node hm) (hp node hm)
    refine ⟨renderPresent_congr hn, fun text => ?_⟩
    rw [← toOption_eq_some, ← toOption_eq_some, renderAll_congr hn]
  · intro e he
    have hf : (scope.eval (.object members)).toOption = none := by
      rw [he]
      rfl
    have hn : List.Forall₂ (fun node node' => (node'.render (.object members)).toOption =
        if node.mentions Operand.isApp then none else (node.render (.object members)).toOption)
        t.nodes (t.nodes.map (Node.redirect scope)) := by
      rw [List.forall₂_map_right_iff, List.forall₂_same]
      exact fun node _ => Node.render_redirect_none single hf node
    exact ⟨hn, renderPresent_without hn⟩

theorem render_scoped_ports :
    let t : Template :=
      ⟨[.action [[.function .index, .field ["App", "Ports"], .int 0]], .text "-",
        .action [[.field ["Id"]]]]⟩
    let members := [("apps", Json.array [.object [("ports", .array [.int 80])]]), ("id", .string "a")]
    (∃ led, t.scoped "\x7b\x7bindex .Apps 0\x7d\x7d" = .ok led ∧
      renderPresent (.object members) led.nodes = "80-a") ∧
    ∃ led, t.scoped "\x7b\x7bindex .Apps 1\x7d\x7d" = .ok led ∧
      renderPresent (.object members) led.nodes = "-a" := by
  intro t members
  have read : Template.parse "\x7b\x7bindex .App.Ports 0\x7d\x7d-\x7b\x7b.Id\x7d\x7d" = .ok t := by rfl
  constructor
  · have selected : readSelector "\x7b\x7bindex .Apps 0\x7d\x7d" =
        .ok (.group [[.function .index, .field ["Apps"], .int 0]]) := by rfl
    obtain ⟨led, hl, hv, -⟩ := render_scoped read selected (by simp) members
    refine ⟨led, hl, ?_⟩
    obtain ⟨h, -⟩ := hv (.object [("ports", .array [.int 80])]) (by rfl) (by decide)
    rw [h]
    rfl
  · have selected : readSelector "\x7b\x7bindex .Apps 1\x7d\x7d" =
        .ok (.group [[.function .index, .field ["Apps"], .int 1]]) := by rfl
    obtain ⟨led, hl, -, hf⟩ := render_scoped read selected (by simp) members
    refine ⟨led, hl, ?_⟩
    obtain ⟨-, h⟩ := hf _ (by rfl)
    rw [h]
    rfl

end Template

end Rollout
