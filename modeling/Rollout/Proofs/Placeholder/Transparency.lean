import Rollout.Proofs.Placeholder.Literals
import Rollout.Proofs.Placeholder.Unmasking

/-!
# Where the mask cannot be seen

The mask escapes the sentinels of a text before its templates are expanded, and those of its literals
with them. Values come in behind the mask as they are. So the expansion comes back as it would be
without the mask if no function looks at an escaped literal and no mask comes in with a value or by
putting parts together (`unmask_expand_mask`).
-/

namespace Rollout.Placeholder

open Text Template

/-! ## Texts without a placeholder -/

/-- Whether no placeholder of the backend starts anywhere in a text. -/
def Free (s : List Char) : Prop :=
  ∀ before rest, s = before ++ rest → ¬ StartsOpening rest

theorem Free.of_isInfix {s t : List Char} (h : Free s) (ht : t <:+: s) : Free t := by
  obtain ⟨x, y, rfl⟩ := ht
  rintro before rest rfl ho
  exact h (x ++ before) (rest ++ y) (by simp only [List.append_assoc]) (ho.append y)

theorem free_of_hide {s : List Char} (h : ∀ n ≤ s.length, hide (s.drop n) = none) : Free s := by
  rintro before rest rfl ⟨blanks, r, hb, rfl⟩
  have hn := h before.length (List.length_append ▸ Nat.le_add_right _ _)
  rw [List.drop_left, hide_reserved hb] at hn
  cases hn

theorem Cut.written {s : List Char} {ps : List Piece} (h : Cut s ps) (free : Free s) :
    s = Placeholder.written false ps ∧ maskChars s = Placeholder.written true ps := by
  rw [h.mask]
  induction h with
  | nil => exact ⟨rfl, rfl⟩
  | @marked s ps _ ih =>
    obtain ⟨hs, hm⟩ := ih (free.of_isInfix (List.suffix_append sentinel s).isInfix)
    rw [List.flatMap_cons, hm]
    exact ⟨congrArg (sentinel ++ ·) hs, rfl⟩
  | @reserved blanks s ps hb _ _ => exact absurd ⟨blanks, s, hb, rfl⟩ (free [] _ rfl)
  | @plain c s ps _ _ _ ih =>
    obtain ⟨hs, hm⟩ := ih (free.of_isInfix (List.suffix_cons c s).isInfix)
    rw [List.flatMap_cons, hm]
    exact ⟨congrArg (c :: ·) hs, rfl⟩

theorem Cut.of_isInfix {s : List Char} {ps qs : List Piece} (h : Cut s ps) (hq : qs <:+: ps) :
    Cut (qs.flatMap Piece.source) qs := by
  obtain ⟨x, y, rfl⟩ := hq
  exact h.append.1.append.2

/-! ## Expansion -/

/-- The pieces that a node is expanded to. A text has those that the mask sees in it. In the value of
an action a sentinel is a piece only if a literal of the action may have brought it. -/
inductive Expanded (root : Json) : Node → List Piece → Prop where
  | text {value pieces} : Cut value.toList pieces → Expanded root (.text value) pieces
  | action {pipeline pieces} :
    (renderPresent root [.action pipeline]).toList = written false pieces →
    (Pipeline.mentions holdsSentinel pipeline = false → ∀ piece ∈ pieces, ∃ c, piece = .plain c) →
    Expanded root (.action pipeline) pieces

def valueText : Except TemplateError Json → String
  | .ok value => render value
  | .error _ => ""

theorem renderPresent_action (root : Json) (pipeline : Pipeline) :
    renderPresent root [.action pipeline] = valueText (Pipeline.eval root none pipeline) := by
  simp only [renderPresent, Node.render]
  cases Pipeline.eval root none pipeline with
  | ok value => exact String.append_empty
  | error e => rfl

theorem exists_written_of_alike {x y : Except TemplateError Json}
    (h : OutcomesAlike (ValuesAlike (Rewritten false true)) x y) :
    ∃ pieces, (valueText x).toList = written false pieces ∧
      (valueText y).toList = written true pieces := by
  cases h with
  | ok hv => exact hv.render (Rewritten.refl false true)
  | error => exact ⟨[], rfl, rfl⟩

section

variable {selector : String} {f : Node → Node} {whole : List Piece}

theorem exists_expanded_text (hf : Leads selector f) (root : Json) {s : List Char} (hc : Cut s whole)
    (free : Free s) {pieces : List Piece} (hp : pieces <:+: whole) :
    Expanded root (f (.text (String.ofList (written false pieces)))) pieces ∧ ∀ e,
      (renderPresent root [f (.text (String.ofList (written e pieces)))]).toList = written e pieces := by
  simp only [hf.text]
  constructor
  · have hcut := hc.of_isInfix hp
    have hi : pieces.flatMap Piece.source <:+: s := by
      obtain ⟨x, y, rfl⟩ := hp
      rw [← hc.source, List.flatMap_append, List.flatMap_append]
      exact ⟨_, _, rfl⟩
    rw [(hcut.written (free.of_isInfix hi)).1] at hcut
    refine .text ?_
    rwa [String.toList_ofList]
  · intro e
    simp [renderPresent, Node.render]

theorem exists_expanded_action (hf : Leads selector f) (root : Json) {pipeline pipeline' : Pipeline}
    (h : Pipeline.Alike (Rewritten false true) pipeline pipeline')
    (hu : Pipeline.unseen holdsSentinel false pipeline = true) :
    ∃ pieces, Expanded root (f (.action pipeline)) pieces ∧
      (renderPresent root [f (.action pipeline)]).toList = written false pieces ∧
      (renderPresent root [f (.action pipeline')]).toList = written true pieces := by
  have hr := printable_rewritten false true
  obtain ⟨g, hg, hfg⟩ := hf.action
  rw [hfg, hfg]
  by_cases hm : Pipeline.mentions holdsSentinel pipeline = true
  · have hv : OutcomesAlike (ValuesAlike (Rewritten false true))
        (Pipeline.eval root none (pipeline.map (·.map g)))
        (Pipeline.eval root none (pipeline'.map (·.map g))) :=
      Pipeline.eval_alike hr hg root h hu .nil fun _ => rfl
    obtain ⟨pieces, hs, hs'⟩ := exists_written_of_alike hv
    rw [← renderPresent_action] at hs hs'
    refine ⟨pieces, .action hs fun hn => ?_, hs, hs'⟩
    have literal (a : Operand) (h : holdsSentinel a = true) : ∃ s, a = .text s := by
      cases a with
      | text s => exact ⟨s, rfl⟩
      | _ => cases h
    have hl := Pipeline.mentions_redirection hg literal pipeline hm
    rw [hn] at hl
    cases hl
  · rw [Bool.not_eq_true] at hm
    obtain rfl := h.eq hr.eq hm
    let value := (renderPresent root [.action (pipeline.map (·.map g))]).toList
    have hv (e : Bool) : value = written e (value.map .plain) := (written_plain e value).symm
    refine ⟨value.map .plain, .action (hv false) fun _ piece hp => ?_, hv false, hv true⟩
    obtain ⟨c, -, rfl⟩ := List.mem_map.1 hp
    exact ⟨c, rfl⟩

theorem exists_expanded (hf : Leads selector f) (root : Json) {s : List Char} (hc : Cut s whole)
    (free : Free s) {nodes nodes' : List Node}
    (h : List.Forall₂ (NodesAlike whole false true) nodes nodes')
    (hu : ∀ node ∈ nodes, node.unseen holdsSentinel = true) :
    ∃ rows, List.Forall₂ (Expanded root) (nodes.map f) rows ∧
      (renderPresent root (nodes.map f)).toList = written false rows.flatten ∧
      (renderPresent root (nodes'.map f)).toList = written true rows.flatten := by
  induction h with
  | nil => exact ⟨[], .nil, rfl, rfl⟩
  | @cons node node' nodes nodes' hn _ ih =>
    rw [List.forall_mem_cons] at hu
    obtain ⟨rows, hx, hs, hs'⟩ := ih hu.2
    obtain ⟨pieces, hp, hw, hw'⟩ : ∃ pieces, Expanded root (f node) pieces ∧
        (renderPresent root [f node]).toList = written false pieces ∧
        (renderPresent root [f node']).toList = written true pieces := by
      cases hn with
      | @text pieces hp =>
        obtain ⟨he, hw⟩ := exists_expanded_text hf root hc free hp
        exact ⟨pieces, he, hw false, hw true⟩
      | action ha => exact exists_expanded_action hf root ha hu.1
    have cons (node : Node) (nodes : List Node) : (renderPresent root (node :: nodes)).toList =
        (renderPresent root [node]).toList ++ (renderPresent root nodes).toList := by
      rw [← String.toList_append, ← renderPresent_append, List.singleton_append]
    refine ⟨pieces :: rows, .cons hp hx, ?_, ?_⟩
    · rw [List.map_cons, cons, hw, hs, ← written_append, List.flatten_cons]
    · rw [List.map_cons, cons, hw', hs', ← written_append, List.flatten_cons]

end

theorem parse_mask {params : String} {whole : List Piece} (hc : Cut params.toList whole)
    (free : Free params.toList) :
    (∀ t, Template.parse params = .ok t → ∃ t', Template.parse (mask params) = .ok t' ∧
      List.Forall₂ (NodesAlike whole false true) t.nodes t'.nodes) ∧
    ∀ t', Template.parse (mask params) = .ok t' → ∃ t, Template.parse params = .ok t := by
  obtain ⟨hs, hm⟩ := hc.written free
  have hm : (mask params).toList = written true whole := by rw [mask, String.toList_ofList, hm]
  constructor
  · intro t ht
    obtain ⟨nodes', hn, ha⟩ := sourceRead_written (parse_iff.1 ht) hs (List.suffix_refl whole) true
    rw [← hm] at hn
    exact ⟨⟨nodes'⟩, parse_iff.2 hn, ha⟩
  · intro t' ht
    obtain ⟨nodes, hn, -⟩ := sourceRead_written (parse_iff.1 ht) hm (List.suffix_refl whole) false
    rw [← hs] at hn
    exact ⟨⟨nodes⟩, parse_iff.2 hn⟩

/-- If no function looks at a literal with a sentinel, the text behind the mask is expanded to the same
pieces as the text itself, with the escape mark behind each sentinel that stands in the text or comes from
a literal. It comes back as it is without the mask if and only if no mask starts in it elsewhere. -/
theorem unmask_expand_mask {params selector : String} {root : Json} (free : Free params.toList)
    (unseen : ∀ t, Template.parse params = .ok t →
      ∀ node ∈ t.nodes, node.unseen holdsSentinel = true) :
    ∃ rows : List (List Piece),
      (∀ led, Template.parseIn params selector = .ok led →
        List.Forall₂ (Expanded root) led.nodes rows) ∧
      (Template.expand params root selector).toList = written false rows.flatten ∧
      (Template.expand (mask params) root selector).toList = written true rows.flatten ∧
      (unmask (Template.expand (mask params) root selector) = Template.expand params root selector ↔
        Apart rows.flatten) := by
  obtain ⟨whole, hc⟩ := exists_cut params.toList
  obtain ⟨hread, hback⟩ := parse_mask hc free
  obtain ⟨rows, hrows, hs, hs'⟩ : ∃ rows : List (List Piece),
      (∀ led, Template.parseIn params selector = .ok led →
        List.Forall₂ (Expanded root) led.nodes rows) ∧
      (Template.expand params root selector).toList = written false rows.flatten ∧
      (Template.expand (mask params) root selector).toList = written true rows.flatten := by
    cases hp : Template.parseIn params selector with
    | ok led =>
      obtain ⟨f, hf⟩ := exists_leads hp
      obtain ⟨t, ht, rfl⟩ := hf.exists_parse hp
      obtain ⟨t', ht', ha⟩ := hread t ht
      obtain ⟨rows, hx, hs, hs'⟩ := exists_expanded hf root hc free ha (unseen t ht)
      rw [← hf.expand ht] at hs
      rw [← hf.expand ht'] at hs'
      refine ⟨rows, fun led hl => ?_, hs, hs'⟩
      cases hl
      exact hx
    | error e =>
      -- What is no template without the mask is none behind it, and expands to nothing.
      have hs : Template.expand params root selector = "" := by rw [Template.expand, hp]
      have hs' : Template.expand (mask params) root selector = "" := by
        rw [Template.expand]
        cases hp' : Template.parseIn (mask params) selector with
        | error => rfl
        | ok led =>
          obtain ⟨f, hf⟩ := exists_leads hp'
          obtain ⟨t', ht', -⟩ := hf.exists_parse hp'
          obtain ⟨t, ht⟩ := hback t' ht'
          have hn := hf.parseIn params
          rw [hp, ht] at hn
          cases hn
      refine ⟨[], ?_, ?_, ?_⟩
      · intro led hl
        cases hl
      · rw [hs]
        rfl
      · rw [hs']
        rfl
  refine ⟨rows, hrows, hs, hs', ?_⟩
  rw [← unmaskChars_written_iff, unmask, hs', ← hs, ← String.toList_inj, String.toList_ofList]

theorem unmask_expand_mask_mail :
    let params := "ops@ANSIBLE.example.com \x7b\x7b.Image\x7d\x7d\x7b\x7bprint \"@ANSIBLE\" 1\x7d\x7d"
    let root := Json.object [("image", .string "mongo")]
    unmask (Template.expand (mask params) root "") = Template.expand params root "" ∧
      ∃ rows : List (List Piece),
        "ops@ANSIBLE.example.com mongo@ANSIBLE1".toList = written false rows.flatten ∧
          Apart rows.flatten := by
  intro params root
  have read : Template.parse params = .ok ⟨[.text "ops@ANSIBLE.example.com ",
      .action [[.field ["Image"]]], .action [[.function .print, .text "@ANSIBLE", .int 1]]]⟩ := by
    rw [← toOption_eq_some]
    decide +kernel
  have expanded : Template.expand params root "" = "ops@ANSIBLE.example.com mongo@ANSIBLE1" := by
    decide +kernel
  have same : unmask (Template.expand (mask params) root "") = Template.expand params root "" := by
    decide +kernel
  have unseen : ∀ t, Template.parse params = .ok t →
      ∀ node ∈ t.nodes, node.unseen holdsSentinel = true := by
    intro t ht
    rw [read] at ht
    cases ht
    decide
  obtain ⟨rows, -, hs, -, hi⟩ := unmask_expand_mask (free_of_hide (by decide)) unseen
  rw [expanded] at hs
  exact ⟨same, rows, hs, hi.1 same⟩

/-- A value that looks like a mask is taken for one. -/
theorem not_transparent :
    ¬ ∀ (params selector : String) (root : Json), Free params.toList →
      unmask (Template.expand (mask params) root selector) = Template.expand params root selector := by
  intro h
  have hv := h "\x7b\x7b.Image\x7d\x7d" "" (.object [("image", .string "@ANSIBLE.x")])
    (free_of_hide (by decide))
  have expanded : Template.expand "\x7b\x7b.Image\x7d\x7d"
      (.object [("image", .string "@ANSIBLE.x")]) "" = "@ANSIBLE.x" := by
    decide +kernel
  have unmasked : unmask (Template.expand (mask "\x7b\x7b.Image\x7d\x7d")
      (.object [("image", .string "@ANSIBLE.x")]) "") = "\x7b\x7bansible_x" := by
    decide +kernel
  rw [expanded, unmasked] at hv
  exact absurd hv (by decide)

-- The literal has eight characters; the function is given the mark with it.
example : unmask (Template.expand (mask "\x7b\x7blen \"@ANSIBLE\"\x7d\x7d") .null "") = "9" := by
  decide +kernel

end Rollout.Placeholder
