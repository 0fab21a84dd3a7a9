import Rollout.Proofs.Template.Locality
import Rollout.Template.Eval

/-!
# Layouts

A source is laid out as stretches of literal text with actions and comments between them. Each of
these marks expands to what it expands to on its own, and each stretch to its own text without the
blanks that the marks beside it trim (`LayoutRead.expand`).
-/

namespace Rollout.Template

open Text

/-- A text in stretches, each but the last with a mark behind it. -/
inductive Layout (α : Type) where
  | last (text : List α)
  | next (text mark : List α) (rest : Layout α)

namespace Layout

variable {α β : Type}

def source : Layout α → List α
  | .last text => text
  | .next text mark rest => text ++ mark ++ rest.source

def map (f : List α → List β) : Layout α → Layout β
  | .last text => .last (f text)
  | .next text mark rest => .next (f text) (f mark) (rest.map f)

def marks : Layout α → List (List α)
  | .last _ => []
  | .next _ mark rest => mark :: rest.marks

/-- The stretches and the values of the marks in their order. A mark trims what is before it by its
third and fourth characters, and what is behind it by the third and fourth from its end. -/
def output (value : List Char → List Char) : (trims : Bool) → Layout Char → List Char
  | trims, .last text => trimmed trims false text
  | trims, .next text mark rest =>
    trimmed trims (trimsBefore (mark.drop 2)) text ++ value mark ++
      output value (trimsBefore (mark.reverse.drop 2)) rest

theorem source_map {f : List α → List β} (hf : ∀ s t, f (s ++ t) = f s ++ f t) (layout : Layout α) :
    (layout.map f).source = f layout.source := by
  induction layout with
  | last text => rfl
  | next text mark rest ih => rw [map, source, source, hf, hf, ih]

theorem marks_map (f : List α → List β) (layout : Layout α) :
    (layout.map f).marks = layout.marks.map f := by
  induction layout with
  | last text => rfl
  | next text mark rest ih => rw [map, marks, marks, List.map_cons, ih]

end Layout

/-- The nodes of a layout in which every mark is one action or comment and starts at the first opening
delimiter behind the mark before it. -/
inductive LayoutRead : (trims : Bool) → Layout Char → List Node → Prop where
  | last {trims text} : cut? "\x7b\x7b".toList text = none →
      LayoutRead trims (.last text) (textNodes (trimmed trims false text))
  | next {trims text inner nodes closes layout rest} :
      cut? "\x7b\x7b".toList (text ++ "\x7b\x7b".toList ++ inner) = some (text, inner) →
      InnerRead inner nodes ⟨[], closes⟩ → LayoutRead closes layout rest →
      LayoutRead trims (.next text ("\x7b\x7b".toList ++ inner) layout)
        (textNodes (trimmed trims (trimsBefore inner) text) ++ nodes ++ rest)

/-! ## Sources -/

theorem SourceRead.exists_layout {trims : Bool} {s : List Char} {nodes : List Node}
    (h : SourceRead trims s nodes) :
    ∃ layout : Layout Char, layout.source = s ∧ LayoutRead trims layout nodes := by
  induction h with
  | text hc => exact ⟨.last _, rfl, .last hc⟩
  | @mark trims s before inner nodes closing rest hc hi _ ih =>
    obtain ⟨layout, hs, hl⟩ := ih
    obtain ⟨body, rfl, -, hnext⟩ := hi.exists_body
    have hi' := hnext []
    rw [List.append_nil] at hi'
    have hc' := cut?_append (by decide) hc (body ++ "\x7d\x7d".toList)
    refine ⟨.next before ("\x7b\x7b".toList ++ (body ++ "\x7d\x7d".toList)) layout, ?_, ?_⟩
    · rw [Layout.source, hs, eq_of_cut? hc]
      simp only [List.append_assoc]
    · rw [trimsBefore_append (length_append_close body)]
      exact .next hc' hi' hl

/-! ## Marks -/

theorem InnerRead.closes_eq {inner : List Char} {nodes : List Node} {closes : Bool}
    (h : InnerRead inner nodes ⟨[], closes⟩) :
    trimsBefore (("\x7b\x7b".toList ++ inner).reverse.drop 2) = closes := by
  obtain ⟨body, rfl, he, -⟩ := h.exists_body
  rw [List.append_nil, List.reverse_append, List.reverse_append]
  exact he.trimsBefore_eq

theorem trimmed_nil (front back : Bool) : trimmed front back [] = [] := by
  cases front <;> cases back <;> rfl

theorem InnerRead.parse {inner : List Char} {nodes : List Node} {closes : Bool}
    (h : InnerRead inner nodes ⟨[], closes⟩) :
    Template.parse (String.ofList ("\x7b\x7b".toList ++ inner)) = .ok ⟨nodes⟩ := by
  have hc : cut? "\x7b\x7b".toList ("\x7b\x7b".toList ++ inner) = some ([], inner) := rfl
  have hs : SourceRead false ("\x7b\x7b".toList ++ inner)
      (textNodes (trimmed false (trimsBefore inner) []) ++ nodes ++
        textNodes (trimmed closes false [])) :=
    .mark hc h (.text rfl)
  rw [trimmed_nil, trimmed_nil] at hs
  rw [parse_iff, String.toList_ofList]
  simpa [textNodes] using hs

theorem InnerRead.nodes_eq {inner : List Char} {nodes : List Node} {closing : Closing}
    (h : InnerRead inner nodes closing) : nodes = [] ∨ ∃ pipeline, nodes = [.action pipeline] := by
  cases h with
  | comment => exact .inl rfl
  | action => exact .inr ⟨_, rfl⟩

theorem LayoutRead.exists_inner {trims : Bool} {layout : Layout Char} {nodes : List Node}
    (h : LayoutRead trims layout nodes) : ∀ mark ∈ layout.marks,
      ∃ inner own closes, mark = "\x7b\x7b".toList ++ inner ∧ InnerRead inner own ⟨[], closes⟩ ∧
        ∀ node ∈ own, node ∈ nodes := by
  induction h with
  | last => exact fun mark hm => absurd hm List.not_mem_nil
  | @next trims text inner nodes closes layout rest _ hi _ ih =>
    intro mark hm
    rcases List.mem_cons.1 hm with rfl | hm
    · exact ⟨inner, nodes, closes, rfl, hi,
        fun node hn => List.mem_append_left _ (List.mem_append_right _ hn)⟩
    · obtain ⟨inner, own, closes, he, hi, ho⟩ := ih mark hm
      exact ⟨inner, own, closes, he, hi, fun node hn => List.mem_append_right _ (ho node hn)⟩

theorem LayoutRead.exists_body {trims : Bool} {layout : Layout Char} {nodes : List Node}
    (h : LayoutRead trims layout nodes) :
    ∀ mark ∈ layout.marks, ∃ body, mark = ['\x7b', '\x7b'] ++ body ++ ['\x7d', '\x7d'] := by
  intro mark hm
  obtain ⟨inner, own, closes, rfl, hi, -⟩ := h.exists_inner mark hm
  obtain ⟨body, rfl, -, -⟩ := hi.exists_body
  refine ⟨body, ?_⟩
  rw [List.append_nil, List.append_assoc]
  rfl

theorem InnerRead.unique {inner : List Char} {nodes nodes' : List Node} {closing closing' : Closing}
    (h : InnerRead inner nodes closing) (h' : InnerRead inner nodes' closing') : closing = closing' := by
  obtain ⟨segments, hs, -⟩ := readInner_of_innerRead h 0 0
  obtain ⟨segments', hs', -⟩ := readInner_of_innerRead h' 0 0
  rw [hs] at hs'
  cases hs'
  rfl

theorem InnerRead.append {inner : List Char} {nodes : List Node} {closes : Bool}
    (h : InnerRead inner nodes ⟨[], closes⟩) (next : List Char) :
    InnerRead (inner ++ next) nodes ⟨next, closes⟩ := by
  obtain ⟨body, rfl, -, hnext⟩ := h.exists_body
  rw [List.append_nil]
  exact hnext next

theorem Layout.cut?_source {text inner : List Char}
    (h : cut? "\x7b\x7b".toList (text ++ "\x7b\x7b".toList ++ inner) = some (text, inner))
    (rest : Layout Char) :
    cut? "\x7b\x7b".toList (Layout.next text ("\x7b\x7b".toList ++ inner) rest).source =
      some (text, inner ++ rest.source) := by
  have hc := cut?_append (by decide) h (inner ++ rest.source)
  simpa only [Layout.source, List.append_assoc] using hc

/-- A source has one layout. -/
theorem LayoutRead.unique {trims trims' : Bool} {layout layout' : Layout Char} {nodes nodes' : List Node}
    (h : LayoutRead trims layout nodes) (h' : LayoutRead trims' layout' nodes')
    (hs : layout.source = layout'.source) : layout = layout' := by
  induction h generalizing trims' layout' nodes' with
  | last hc =>
    cases h' with
    | last => exact congrArg Layout.last hs
    | @next _ text inner _ _ rest _ hc' =>
      have hn := Layout.cut?_source hc' rest
      rw [← hs, Layout.source, hc] at hn
      cases hn
  | @next trims text inner nodes closes layout rest hc hi _ ih =>
    have hn := Layout.cut?_source hc layout
    cases h' with
    | last hc' =>
      rw [hs, Layout.source, hc'] at hn
      cases hn
    | @next _ text' inner' _ closes' layout' _ hc' hi' hl' =>
      rw [hs, Layout.cut?_source hc' layout', Option.some.injEq, Prod.mk.injEq] at hn
      obtain ⟨rfl, hr⟩ := hn
      have ha := hi.append layout.source
      rw [← hr] at ha
      obtain ⟨hr', -⟩ := Closing.mk.inj (ha.unique (hi'.append layout'.source))
      obtain rfl := ih hl' hr'
      rw [List.append_cancel_right hr]

/-! ## Expansion -/

theorem renderPresent_append (root : Json) (a b : List Node) :
    renderPresent root (a ++ b) = renderPresent root a ++ renderPresent root b := by
  induction a with
  | nil => exact String.empty_append.symm
  | cons node a ih =>
    simp only [List.cons_append, renderPresent]
    split
    · rw [ih, String.append_assoc]
    · exact ih

theorem renderPresent_textNodes (root : Json) (text : List Char) :
    (renderPresent root (textNodes text)).toList = text := by
  cases text with
  | nil => rfl
  | cons c text => simp [textNodes, renderPresent, Node.render]

theorem map_textNodes {f : Node → Node} (hf : ∀ value, f (.text value) = .text value) (text : List Char) :
    (textNodes text).map f = textNodes text := by
  cases text with
  | nil => rfl
  | cons c text => exact congrArg (fun node => [node]) (hf _)

/-- A change of operands that keeps literals and functions and goes into chains and groups. -/
structure Redirection (g : Operand → Operand) : Prop where
  text (value : String) : g (.text value) = .text value
  function (builtin : Builtin) : g (.function builtin) = .function builtin
  chain (base : Operand) (path : List String) : g (.chain base path) = .chain (g base) path
  group (commands : Pipeline) : g (.group commands) = .group (commands.map (·.map g))

theorem redirection_id : Redirection id :=
  ⟨fun _ => rfl, fun _ => rfl, fun _ _ => rfl, fun commands => by simp⟩

theorem Command.redirect_eq_map (scope : Operand) (command : Command) :
    Command.redirect scope command = command.map (Operand.redirect scope) := by
  induction command with
  | nil => rfl
  | cons operand rest ih => rw [Command.redirect, ih, List.map_cons]

theorem Pipeline.redirect_eq_map (scope : Operand) (pipeline : Pipeline) :
    Pipeline.redirect scope pipeline = pipeline.map (·.map (Operand.redirect scope)) := by
  induction pipeline with
  | nil => rfl
  | cons command rest ih => rw [Pipeline.redirect, ih, Command.redirect_eq_map, List.map_cons]

theorem redirection_redirect (scope : Operand) : Redirection (Operand.redirect scope) :=
  ⟨fun _ => rfl, fun _ => rfl, fun _ _ => rfl,
    fun commands => congrArg Operand.group (Pipeline.redirect_eq_map scope commands)⟩

/-- What a selector makes of the nodes of every source. -/
structure Leads (selector : String) (f : Node → Node) : Prop where
  text (value : String) : f (.text value) = .text value
  action : ∃ g, Redirection g ∧
    ∀ pipeline, f (.action pipeline) = .action (pipeline.map (·.map g))
  parseIn (source : String) :
    Template.parseIn source selector = (Template.parse source).map fun t => ⟨t.nodes.map f⟩

theorem exists_leads {source selector : String} {led : Template}
    (h : Template.parseIn source selector = .ok led) : ∃ f, Leads selector f := by
  obtain ⟨t, -, ht⟩ := bind_eq_ok.1 h
  by_cases he : selector.isEmpty = true
  · refine ⟨id, fun _ => rfl, ⟨id, redirection_id, fun pipeline => by simp⟩, fun source => ?_⟩
    unfold Template.parseIn
    cases Template.parse source with
    | error e => rfl
    | ok t => simp [bind, Except.bind, Except.map, he]
  · rw [if_neg he] at ht
    obtain ⟨scope, hs, -⟩ := bind_eq_ok.1 ht
    refine ⟨Node.redirect scope, fun _ => rfl, ⟨_, redirection_redirect scope, fun pipeline => ?_⟩,
      fun source => ?_⟩
    · exact congrArg Node.action (Pipeline.redirect_eq_map scope pipeline)
    unfold Template.parseIn
    cases Template.parse source with
    | error e => rfl
    | ok t => simp [bind, Except.bind, Except.map, he, Template.scoped, hs]

theorem Leads.exists_parse {selector : String} {f : Node → Node} (hf : Leads selector f)
    {source : String} {led : Template} (h : Template.parseIn source selector = .ok led) :
    ∃ t : Template, Template.parse source = .ok t ∧ led = ⟨t.nodes.map f⟩ := by
  rw [hf.parseIn] at h
  cases hp : Template.parse source with
  | error e =>
    rw [hp] at h
    cases h
  | ok t =>
    rw [hp] at h
    cases h
    exact ⟨t, rfl, rfl⟩

theorem Leads.expand {selector : String} {f : Node → Node} (hf : Leads selector f) {source : String}
    {t : Template} (h : Template.parse source = .ok t) (root : Json) :
    Template.expand source root selector = renderPresent root (t.nodes.map f) := by
  rw [Template.expand, hf.parseIn, h]
  rfl

/-- The expansion of a text on its own. -/
def expandChars (root : Json) (selector : String) (mark : List Char) : List Char :=
  (Template.expand (String.ofList mark) root selector).toList

/-- In the scope of a selector, a mark is a comment or one of the actions, and expands to its value. -/
theorem LayoutRead.parseIn_mark {selector : String} {f : Node → Node} (hf : Leads selector f)
    {trims : Bool} {layout : Layout Char} {nodes : List Node} (h : LayoutRead trims layout nodes)
    (root : Json) :
    ∀ mark ∈ layout.marks, ∃ own, Template.parseIn (String.ofList mark) selector = .ok ⟨own⟩ ∧
      (own = [] ∨ ∃ pipeline, own = [.action pipeline] ∧ .action pipeline ∈ nodes.map f) ∧
      expandChars root selector mark = (renderPresent root own).toList := by
  intro mark hm
  obtain ⟨inner, own, closes, rfl, hi, ho⟩ := h.exists_inner mark hm
  refine ⟨own.map f, by rw [hf.parseIn, hi.parse]; rfl, ?_, ?_⟩
  · rcases hi.nodes_eq with rfl | ⟨pipeline, rfl⟩
    · exact .inl rfl
    · obtain ⟨g, -, hg⟩ := hf.action
      refine .inr ⟨_, congrArg (fun node => [node]) (hg pipeline), ?_⟩
      rw [← hg pipeline]
      exact List.mem_map_of_mem (ho _ List.mem_cons_self)
  · rw [expandChars, hf.expand hi.parse]

theorem LayoutRead.expand {selector : String} {f : Node → Node} (hf : Leads selector f) (root : Json)
    {trims : Bool} {layout : Layout Char} {nodes : List Node} (h : LayoutRead trims layout nodes) :
    (renderPresent root (nodes.map f)).toList = layout.output (expandChars root selector) trims := by
  induction h with
  | last => rw [map_textNodes hf.text, renderPresent_textNodes, Layout.output]
  | @next trims text inner nodes closes layout rest _ hi _ ih =>
    have hv : expandChars root selector ("\x7b\x7b".toList ++ inner) =
        (renderPresent root (nodes.map f)).toList := by
      rw [expandChars, hf.expand hi.parse]
    rw [List.map_append, List.map_append, map_textNodes hf.text, renderPresent_append,
      renderPresent_append, String.toList_append, String.toList_append, renderPresent_textNodes, ih, ← hv,
      Layout.output, hi.closes_eq]
    rfl

end Rollout.Template
