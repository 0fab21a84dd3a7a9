import Rollout.Proofs.Compile.Provenance
import Rollout.Proofs.Template.Reference
import Rollout.Proofs.Template.Substitution

/-!
# The app of a reference

The reference `{{index .Apps i}}` leads the templates of an action to the app at place `i`. The fields of
the action are looked up once more, by the name of this app, and so are those of the first app that has
it (`compile_selected`). They are of another app if two go by one name (`not_selected_fields`).
-/

namespace Rollout

/-! ## Members -/

namespace Json

theorem canonicalItems_eq_map (items : List Json) : canonicalItems items = items.map canonical := by
  induction items with
  | nil => rfl
  | cons item items ih => rw [canonicalItems, ih, List.map_cons]

theorem mem_insertMember {key : String} {value : Json} {members : List (String × Json)}
    {m : String × Json} (h : m ∈ insertMember key value members) : m.1 = key ∨ m ∈ members := by
  induction members with
  | nil => exact .inl (congrArg Prod.fst (List.mem_singleton.1 h))
  | cons first members ih =>
    rw [insertMember] at h
    split at h
    · rcases List.mem_cons.1 h with rfl | h
      · exact .inl rfl
      · exact .inr h
    · split at h
      · exact .inr h
      · rcases List.mem_cons.1 h with rfl | h
        · exact .inr List.mem_cons_self
        · exact (ih h).imp_right (List.mem_cons_of_mem _)

theorem key_mem_of_mem_canonicalMembers {members : List (String × Json)} {m : String × Json}
    (h : m ∈ canonicalMembers members) : m.1 ∈ members.map (·.1) := by
  induction members with
  | nil => cases h
  | cons first members ih =>
    rw [canonicalMembers] at h
    rw [List.map_cons, List.mem_cons]
    exact (mem_insertMember h).imp_right ih

theorem lookup_canonicalMembers {members : List (String × Json)} (h : (members.map (·.1)).Nodup)
    (key : String) : (canonicalMembers members).lookup key = (members.lookup key).map canonical := by
  induction members with
  | nil => rfl
  | cons first members ih =>
    obtain ⟨name, value⟩ := first
    rw [List.map_cons, List.nodup_cons] at h
    rw [canonicalMembers, List.lookup_cons]
    by_cases hk : key = name
    · have fresh : ∀ m ∈ canonicalMembers members, m.1 ≠ name := by
        rintro m hm rfl
        exact h.1 (key_mem_of_mem_canonicalMembers (m := m) hm)
      rw [hk, lookup_insertMember_self _ fresh, beq_self_eq_true]
      rfl
    · rw [lookup_insertMember_ne hk, ih h.2, beq_eq_false_iff_ne.2 hk]

end Json

theorem Template.fieldOf_canonical {members : List (String × Json)} {name : String} {value : Json}
    (h : (members.map (·.1)).Nodup) (hl : Template.lookup? members name = some value) :
    Template.fieldOf (Json.object members).canonical name = .ok value.canonical := by
  have found : Template.lookup? (Json.canonicalMembers members) name = some value.canonical := by
    rw [Template.lookup?, Json.lookup_canonicalMembers h, Json.lookup_canonicalMembers h]
    rw [Template.lookup?] at hl
    rw [← Option.map_or, hl, Option.map_some]
  rw [Json.canonical, Template.fieldOf, found]

/-! ## The app at a place -/

namespace Scenario

open Template Text

variable {s : Scenario} {i : Nat} {app : App}

theorem fieldOf_context_apps (s : Scenario) :
    fieldOf s.context "Apps" = .ok (.array (s.document.apps.map fun app => app.encode.canonical)) := by
  have keys : ["id", "env", "description", "dest", "oses", "apps", "playbooks", "suffix"].Nodup := by
    decide
  have items : (Json.ofList App.encode s.document.apps).canonical =
      .array (s.document.apps.map fun app => app.encode.canonical) := by
    rw [Json.ofList, Json.canonical, Json.canonicalItems_eq_map, List.map_map]
    rfl
  rw [← items]
  exact fieldOf_canonical keys rfl

theorem fieldOf_name (app : App) : fieldOf app.encode.canonical "Name" = .ok (.string app.name) := by
  have keys : ["name", "type", "image", "host", "ports", "dest", "cred", "customizations",
      "repository"].Nodup := by
    decide
  have name : fieldOf app.encode.canonical "Name" = .ok (Json.string app.name).canonical :=
    fieldOf_canonical keys rfl
  exact name

theorem indexOne_items {items : List Json} {item : Json} (hi : isInt64 i = true)
    (ha : items[i]? = some item) : indexOne (.array items) (.int i) = .ok item := by
  have key : Json.int64? (.number (.int i)) = some (i : Int) := by
    simp only [Json.int64?, hi, if_true]
  rw [Json.int, indexOne]
  simp only [key, Option.getD_some, Int.toNat_natCast, ha]
  exact if_neg (by omega)

theorem eval_reference_eq (s : Scenario) (i : Nat) :
    (Operand.group [[.function .index, .field ["Apps"], .int i]]).eval s.context =
      indexOne (.array (s.document.apps.map fun app => app.encode.canonical)) (.int i) := by
  let apps := s.document.apps.map fun app => app.encode.canonical
  have args : Operand.evalAll s.context [.field ["Apps"], .int i] = .ok [.array apps, .int i] := by
    simp only [Operand.evalAll, Operand.eval, walk, fieldOf_context_apps, bind, Except.bind, apps]
  cases hx : indexOne (.array apps) (.int i) with
  | ok item =>
    have call : Builtin.index.call [.array apps, .int i] = .ok item := by
      rw [Builtin.call, indexAll, hx]
      rfl
    exact bind_eq_ok.2 ⟨_, bind_eq_ok.2 ⟨_, args, call⟩, rfl⟩
  | error e =>
    have call : Builtin.index.call [.array apps, .int i] = .error e := by
      rw [Builtin.call, indexAll, hx]
      rfl
    exact bind_eq_error.2 (.inl (bind_eq_error.2 (.inr ⟨_, args, call⟩)))

theorem eval_reference (hi : isInt64 i = true) (ha : s.document.apps[i]? = some app) :
    (Operand.group [[.function .index, .field ["Apps"], .int i]]).eval s.context =
      .ok app.encode.canonical := by
  rw [eval_reference_eq]
  refine indexOne_items hi ?_
  rw [List.getElem?_map, ha, Option.map_some]

theorem parseIn_nameTemplate (hi : isInt64 i = true) :
    Template.parseIn nameTemplate (reference i) = .ok ⟨[.action [[.chain
      (.group [[.function .index, .field ["Apps"], .int i]]) ["Name"]]]]⟩ := by
  have parsed : Template.parse nameTemplate = .ok ⟨[.action [[.field ["App", "Name"]]]]⟩ := by rfl
  refine bind_eq_ok.2 ⟨_, parsed, ?_⟩
  rw [reference_isEmpty]
  exact bind_eq_ok.2 ⟨_, readSelector_reference_iff.2 ⟨hi, rfl⟩, rfl⟩

theorem tryExpand_nameTemplate (hi : isInt64 i = true) (ha : s.document.apps[i]? = some app) :
    Template.tryExpand nameTemplate s.context (reference i) = .ok app.name := by
  let scope : Operand := .group [[.function .index, .field ["Apps"], .int i]]
  have value : (Operand.chain scope ["Name"]).eval s.context = .ok (.string app.name) :=
    bind_eq_ok.2 ⟨_, eval_reference hi ha, bind_eq_ok.2 ⟨_, fieldOf_name app, rfl⟩⟩
  have piped : Pipeline.eval s.context none [[.chain scope ["Name"]]] = .ok (.string app.name) :=
    bind_eq_ok.2 ⟨_, value, rfl⟩
  have text : (Node.action [[.chain scope ["Name"]]]).render s.context = .ok app.name := by
    rw [Node.render, piped]
    rfl
  exact bind_eq_ok.2 ⟨_, parseIn_nameTemplate hi, bind_eq_ok.2 ⟨_, text, bind_eq_ok.2 ⟨"", rfl, by
    rw [String.append_empty]⟩⟩⟩

theorem isInt64_of_tryExpand {source name : String}
    (h : Template.tryExpand source s.context (reference i) = .ok name) : isInt64 i = true := by
  obtain ⟨template, h, -⟩ := bind_eq_ok.1 h
  obtain ⟨_, -, h⟩ := bind_eq_ok.1 h
  rw [reference_isEmpty] at h
  obtain ⟨scope, h, -⟩ := bind_eq_ok.1 h
  exact (readSelector_reference_iff.1 h).1

theorem exists_first_named (ha : s.document.apps[i]? = some app) :
    ∃ first, s.document.apps.find? (·.name = app.name) = some first :=
  Option.isSome_iff_exists.1 (List.find?_isSome.2 ⟨app, List.mem_of_getElem? ha, by simp⟩)

/-- The app of a reference is looked up by the name of the app that the reference selects. -/
theorem findApp_reference {found : App} (ha : s.document.apps[i]? = some app)
    (h : s.findApp (reference i) = .ok found) :
    isInt64 i = true ∧ s.document.apps.find? (·.name = app.name) = some found := by
  unfold findApp at h
  cases ht : Template.tryExpand nameTemplate s.context (reference i) with
  | error e =>
    simp only [ht] at h
    cases h
  | ok name =>
    have hi := isInt64_of_tryExpand ht
    cases (tryExpand_nameTemplate hi ha).symm.trans ht
    refine ⟨hi, ?_⟩
    obtain ⟨first, hf⟩ := exists_first_named ha
    have named : appNamed? s.document.apps app.name = some first := by
      rw [appNamed?, hf, Option.some_or]
    simp only [ht, named] at h
    split at h
    · cases h
    · cases h
      exact hf

end Scenario

/-! ## Actions -/

theorem find?_eq_of_take {α : Type} {p : α → Bool} {xs : List α} {i : Nat} {x : α}
    (hx : xs[i]? = some x) (hp : p x = true) (before : ∀ y ∈ xs.take i, p y = false) :
    xs.find? p = some x := by
  obtain ⟨hl, rfl⟩ := List.getElem?_eq_some_iff.1 hx
  refine List.find?_eq_some_iff_getElem.2 ⟨hp, i, hl, rfl, fun j hj => ?_⟩
  rw [before _ (List.mem_take_iff_getElem.2 ⟨j, by omega, rfl⟩), Bool.not_false]

namespace Compiler

open Template

variable {compiler : Compiler} {s : Scenario} {p : Playbook}

/-- What an action for the reference to one app has of it. Its fields are those of the first app of that
name, and so its own if no app in front of it has the name. -/
structure ForSelected (compiler : Compiler) (s : Scenario) (p : Playbook) (i : Nat) (app : App)
    (action : Action) : Prop where
  selected : ∃ scope, readSelector (reference i) = .ok scope ∧
    scope.eval s.context = .ok app.encode.canonical
  containers : compiler.Rendered s p (reference i) app.name action.containers
  name : action.name = app.name
  fields : ∃ first, s.document.apps.find? (·.name = app.name) = some first ∧
    action.dest = first.dest ∧ action.repository = first.repository ∧
    action.files = first.customizations
  own : (∀ other ∈ s.document.apps.take i, other.name ≠ app.name) →
    action.dest = app.dest ∧ action.repository = app.repository ∧ action.files = app.customizations

theorem FromApp.selected {i : Nat} {app : App} {action : Action}
    (h : compiler.FromApp s p (reference i) action) (ha : s.document.apps[i]? = some app) :
    compiler.ForSelected s p i app action := by
  obtain ⟨found, hf, hn, hd, hr, hc⟩ := h.app
  obtain ⟨hi, hfound⟩ := Scenario.findApp_reference ha hf
  have name : found.name = app.name := by simpa using List.find?_some hfound
  refine ⟨⟨_, readSelector_reference_iff.2 ⟨hi, rfl⟩, Scenario.eval_reference hi ha⟩, ?_,
    hn.trans name, ⟨found, hfound, hd, hr, hc⟩, ?_⟩
  · rw [← name, ← hn]
    exact h.containers
  · intro before
    have hown := find?_eq_of_take (p := (·.name = app.name)) ha (by simp) (by simpa using before)
    cases hown.symm.trans hfound
    exact ⟨hd, hr, hc⟩

/-- Whether a relation holds of every action for the reference to one app, in the blocks of the actions of
the playbooks. -/
def EachSelected (s : Scenario) (R : Playbook → Nat → App → Action → Prop)
    (blocks : List (List Action)) : Prop :=
  List.Forall₂ (fun p block => p.apps ≠ [] → List.Forall₂ (fun text action =>
    ∀ i app, text = reference i → s.document.apps[i]? = some app → R p i app action) p.apps block)
    s.document.playbooks blocks

/-- Every action for a reference `{{index .Apps i}}` has the name of the app at place `i`, and its
templates see this app; its other fields are those of the first app of the name. -/
theorem compile_selected {actions : List Action} (h : compiler.compile s = .ok actions) :
    ∃ blocks : List (List Action), actions = blocks.flatten ∧
      EachSelected s (compiler.ForSelected s) blocks := by
  obtain ⟨blocks, rfl, hb⟩ := compile_eq_ok_iff.1 h
  refine ⟨blocks, rfl, hb.imp ?_⟩
  intro p block hp ha
  refine ((compilePlaybook_eq_ok hp).apps ha).imp ?_
  rintro _ action hf i app rfl happ
  exact hf.selected happ

theorem compile_selected_shop :
    let compiler : Compiler := ⟨.ansible, ⟨[]⟩⟩
    let s : Scenario := ⟨{
      id := "shop"
      env := "test"
      oses := [{ user := "root" }]
      apps := [{ name := "web", dest := "srv/web" }, { name := "db", dest := "srv/db" },
        { name := "db", dest := "srv/spare" }]
      playbooks := [
        { inventory := "hosts"
          apps := ["\x7b\x7bindex .Apps 2\x7d\x7d", "\x7b\x7bindex .Apps 0\x7d\x7d"]
          containers := [{ params := "-d \x7b\x7b.App.Dest\x7d\x7d" }] }] }⟩
    ∃ blocks : List (List Action), blocks.flatten.map (fun action =>
        (action.name, action.dest, action.containers.map (·.params))) =
        [("db", "srv/db", ["--name db -d srv/spare"]), ("web", "srv/web", ["--name web -d srv/web"])] ∧
      EachSelected s (compiler.ForSelected s) blocks := by
  intro compiler s
  have compiled : (compiler.compile s).toOption.map (·.map fun action =>
      (action.name, action.dest, action.containers.map (·.params))) =
      some [("db", "srv/db", ["--name db -d srv/spare"]),
        ("web", "srv/web", ["--name web -d srv/web"])] := by
    decide +kernel
  obtain ⟨actions, ho, ha⟩ := Option.map_eq_some_iff.1 compiled
  obtain ⟨blocks, rfl, hb⟩ := compile_selected (toOption_eq_some.1 ho)
  exact ⟨blocks, ha, hb⟩

/-- Of two apps with one name the second gets the fields of the first. -/
theorem not_selected_fields :
    ¬ ∀ (compiler : Compiler) (downloader : Downloader) (d : Document) (s : Scenario)
        (actions : List Action), (d.normalize downloader).result = .ok s →
      compiler.compile s = .ok actions → ∃ blocks : List (List Action), actions = blocks.flatten ∧
        EachSelected s (fun _ _ app action => action.name = app.name ∧ action.dest = app.dest ∧
          action.repository = app.repository ∧ action.files = app.customizations) blocks := by
  intro h
  let s : Scenario := ⟨{
    id := "shop"
    env := "test"
    dest := "srv"
    oses := [{ user := "root" }]
    apps := [{ name := "web", kind := "generic", dest := "srv/a" },
      { name := "web", kind := "generic", dest := "srv/b" }]
    playbooks := [{ inventory := "hosts", apps := ["\x7b\x7bindex .Apps 1\x7d\x7d"], containers := [{}] }] }⟩
  have normalized : (s.document.normalize .offline).result.toOption = some s := by decide +kernel
  have compiled : (Compiler.compile ⟨.ansible, ⟨[]⟩⟩ s).toOption.map (·.map (·.dest)) =
      some ["srv/a"] := by
    decide +kernel
  obtain ⟨actions, ho, hd⟩ := Option.map_eq_some_iff.1 compiled
  obtain ⟨blocks, rfl, hb⟩ := h _ _ _ _ _ (toOption_eq_some.1 normalized) (toOption_eq_some.1 ho)
  obtain ⟨block, _, hp, hnil, rfl⟩ := List.forall₂_cons_left_iff.1 hb
  cases hnil
  obtain ⟨action, _, ha, hnil, rfl⟩ := List.forall₂_cons_left_iff.1 (hp (List.cons_ne_nil _ _))
  cases hnil
  obtain ⟨-, dest, -⟩ := ha 1 _ (by decide +kernel) rfl
  have first : action.dest = "srv/a" := by simpa using hd
  rw [first] at dest
  exact absurd dest (by decide)

end Compiler

end Rollout
