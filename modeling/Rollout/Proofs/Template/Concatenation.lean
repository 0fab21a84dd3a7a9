import Rollout.Proofs.Template.Expansion
import Rollout.Proofs.Template.Layout

/-!
# Sources one behind the other

A source is read in the same way whatever source stands behind it, as long as no delimiter comes about
where the two meet and no mark trims over this border. Then their texts there become one, and the two
expand to their expansions one behind the other (`expand_append`).
-/

namespace Rollout.Template

open Text

variable {trims : Bool} {a b : List Char} {nodes rest : List Node}

theorem trimmed_append {front back : Bool} (hf : front = true → ¬ ∀ c ∈ a, isBlank c = true)
    (hb : back = true → ¬ ∀ c ∈ b, isBlank c = true) :
    trimmed front back (a ++ b) = trimmed front false a ++ trimmed false back b := by
  cases front with
  | false =>
    cases back with
    | false => rfl
    | true => exact trimEnd_append (hb rfl)
  | true =>
    have start : trimStart (a ++ b) = trimStart a ++ b := trimStart_append (hf rfl)
    cases back with
    | false => exact start
    | true => exact (congrArg trimEnd start).trans (trimEnd_append (hb rfl))

/-! ## Where two sources meet -/

/-- Whether the last mark of a source, or else one before it, trims what is behind it, and that is
blank. -/
inductive TrimsBehind : (trims : Bool) → List Char → Prop where
  | text {s} : cut? "\x7b\x7b".toList s = none → (∀ c ∈ s, isBlank c = true) → TrimsBehind true s
  | mark {trims s before inner nodes closing} : cut? "\x7b\x7b".toList s = some (before, inner) →
      InnerRead inner nodes closing → TrimsBehind closing.trims closing.rest → TrimsBehind trims s

theorem TrimsBehind.getLast? (h : TrimsBehind trims a) :
    (trims = true ∧ ∀ c ∈ a, isBlank c = true) ∨
      ∃ c, a.getLast? = some c ∧ (isBlank c = true ∨ c = '\x7d') := by
  induction h with
  | text _ blank => exact .inl ⟨rfl, blank⟩
  | @mark trims a before inner nodes closing hc hi _ ih =>
    obtain ⟨body, rfl, -, -⟩ := hi.exists_body
    rw [eq_of_cut? hc]
    simp only [List.getLast?_append]
    cases hl : closing.rest.getLast? with
    | none => exact .inr ⟨_, rfl, .inr rfl⟩
    | some c =>
      refine .inr ⟨c, rfl, ?_⟩
      obtain ⟨-, blank⟩ | ⟨_, hc, h⟩ := ih
      · exact .inl (blank c (List.mem_of_getLast? hl))
      · cases hl.symm.trans hc
        exact h

/-- Whether the first mark of a source trims what is before it, and that is blank. -/
def TrimsAhead (s : List Char) : Prop :=
  ∃ before inner, cut? "\x7b\x7b".toList s = some (before, inner) ∧
    (∀ c ∈ before, isBlank c = true) ∧ trimsBefore inner = true

/-- Whether a delimiter comes about where two sources meet. -/
def OpensBetween (a b : List Char) : Prop :=
  a.getLast? = some '\x7b' ∧ b.head? = some '\x7b'

theorem cut?_append_of_none (ha : cut? "\x7b\x7b".toList a = none) (h : ¬ OpensBetween a b) :
    cut? "\x7b\x7b".toList (a ++ b) = (cut? "\x7b\x7b".toList b).map fun r => (a ++ r.1, r.2) := by
  induction a with
  | nil => simp
  | cons c a ih =>
    rw [cut?] at ha
    cases hs : strip? "\x7b\x7b".toList (c :: a) with
    | some rest =>
      rw [hs] at ha
      cases ha
    | none =>
      simp only [hs, Option.map_eq_none_iff] at ha
      have hs' : strip? "\x7b\x7b".toList (c :: (a ++ b)) = none := by
        cases a with
        | nil =>
          rw [List.nil_append, strip?_eq_none_iff]
          rintro ⟨next, he⟩
          cases he
          exact h ⟨rfl, rfl⟩
        | cons d a =>
          rw [← List.cons_append, strip?_append (by simp), hs, Option.map_none]
      have hb : ¬ OpensBetween a b := by
        rintro ⟨hl, hh⟩
        refine h ⟨?_, hh⟩
        rw [List.getLast?_cons, hl, Option.getD_some]
      rw [List.cons_append, cut?, hs', ih ha hb, Option.map_map]
      rfl

/-- Two rows of nodes one behind the other, in which the text at the end of the first and the text at
the start of the second are one. -/
inductive Joins : List Node → List Node → List Node → Prop where
  | intro (front : List Node) (s t : List Char) (back : List Node) :
      Joins (front ++ textNodes s) (textNodes t ++ back) (front ++ textNodes (s ++ t) ++ back)

theorem Joins.prepend {joined : List Node} (h : Joins nodes rest joined) (before : List Node) :
    Joins (before ++ nodes) rest (before ++ joined) := by
  obtain ⟨front, s, t, back⟩ := h
  simpa only [List.append_assoc] using Joins.intro (before ++ front) s t back

theorem SourceRead.append (ha : SourceRead trims a nodes) (hb : SourceRead false b rest)
    (opens : ¬ OpensBetween a b) (behind : ¬ TrimsBehind trims a) (ahead : ¬ TrimsAhead b) :
    ∃ joined, SourceRead trims (a ++ b) joined ∧ Joins nodes rest joined := by
  induction ha with
  | @text trims a hc =>
    have hcut := cut?_append_of_none hc opens
    have hf : trims = true → ¬ ∀ c ∈ a, isBlank c = true := by
      rintro rfl blank
      exact behind (.text hc blank)
    cases hb with
    | text hcb =>
      rw [hcb] at hcut
      refine ⟨_, .text hcut, ?_⟩
      rw [trimmed_append hf (by simp)]
      simpa using Joins.intro [] (trimmed trims false a) (trimmed false false b) []
    | @mark _ _ before inner own closing rest hcb hi hr =>
      rw [hcb] at hcut
      have hb : trimsBefore inner = true → ¬ ∀ c ∈ before, isBlank c = true :=
        fun ht blank => ahead ⟨before, inner, hcb, blank, ht⟩
      refine ⟨_, .mark hcut hi hr, ?_⟩
      rw [trimmed_append hf hb]
      simpa using Joins.intro [] (trimmed trims false a) (trimmed false (trimsBefore inner) before)
        (own ++ rest)
  | @mark trims a before inner own closing _ hc hi _ ih =>
    have hopens : ¬ OpensBetween closing.rest b := by
      rintro ⟨hl, hh⟩
      refine opens ⟨?_, hh⟩
      obtain ⟨body, rfl, -, -⟩ := hi.exists_body
      rw [eq_of_cut? hc, List.getLast?_append, List.getLast?_append, hl]
      rfl
    obtain ⟨joined, hj, joins⟩ := ih hopens fun ht => behind (.mark hc hi ht)
    -- Nothing of the mark depends on what is behind it.
    obtain ⟨body, rfl, -, hnext⟩ := hi.exists_body
    have hcut := cut?_append (by decide) hc (body ++ "\x7d\x7d".toList ++ (closing.rest ++ b))
    have hs : a ++ b = before ++ "\x7b\x7b".toList ++
        (body ++ "\x7d\x7d".toList ++ (closing.rest ++ b)) := by
      rw [eq_of_cut? hc]
      simp only [List.append_assoc]
    have ht : trimsBefore (body ++ "\x7d\x7d".toList ++ (closing.rest ++ b)) =
        trimsBefore (body ++ "\x7d\x7d".toList ++ closing.rest) := by
      rw [trimsBefore_append (length_append_close body), trimsBefore_append (length_append_close body)]
    rw [hs]
    refine ⟨_, .mark hcut (hnext _) hj, ?_⟩
    rw [ht]
    exact joins.prepend _

/-! ## Expansion -/

section

variable {root : Json} {f : Node → Node} {joined : List Node}

theorem Joins.renderPresent (h : Joins nodes rest joined) (hf : ∀ value, f (.text value) = .text value) :
    renderPresent root (joined.map f) =
      renderPresent root (nodes.map f) ++ renderPresent root (rest.map f) := by
  obtain ⟨front, s, t, back⟩ := h
  apply String.toList_injective
  simp only [List.map_append, map_textNodes hf, renderPresent_append, String.toList_append,
    renderPresent_textNodes, List.append_assoc]

theorem Joins.forall_mem_iff (h : Joins nodes rest joined) {p : Node → Prop}
    (hp : ∀ value, p (.text value)) :
    (∀ node ∈ joined, p node) ↔ (∀ node ∈ nodes, p node) ∧ ∀ node ∈ rest, p node := by
  have texts (text : List Char) : ∀ node ∈ textNodes text, p node := by
    cases text with
    | nil => exact List.forall_mem_nil p
    | cons c text => exact List.forall_mem_singleton.2 (hp _)
  obtain ⟨front, s, t, back⟩ := h
  simp only [List.forall_mem_append]
  exact ⟨fun h => ⟨⟨h.1.1, texts s⟩, texts t, h.2⟩, fun h => ⟨⟨h.1.1, texts _⟩, h.2.2⟩⟩

theorem Joins.renderAll (h : Joins nodes rest joined) (hf : ∀ value, f (.text value) = .text value)
    {text : String} : renderAll root (joined.map f) = .ok text ↔
      ∃ x y, renderAll root (nodes.map f) = .ok x ∧ renderAll root (rest.map f) = .ok y ∧
        text = x ++ y := by
  have sound := h.forall_mem_iff (p := fun node => ∀ e, ¬ (f node).Fails root e) fun value e he => by
    rw [hf] at he
    obtain ⟨_, ht, -⟩ := he
    cases ht
  have present : Template.renderPresent root (joined.map f) =
      Template.renderPresent root (nodes.map f) ++ Template.renderPresent root (rest.map f) :=
    h.renderPresent hf
  have output : output root (joined.map f) = output root (nodes.map f) ++ output root (rest.map f) := by
    simpa only [renderPresent_eq] using present
  simp only [renderAll_eq_ok_iff, List.forall_mem_map, sound, output]
  constructor
  · rintro ⟨⟨hx, hy⟩, rfl⟩
    exact ⟨_, _, ⟨hx, rfl⟩, ⟨hy, rfl⟩, rfl⟩
  · rintro ⟨x, y, ⟨hx, rfl⟩, ⟨hy, rfl⟩, rfl⟩
    exact ⟨⟨hx, hy⟩, rfl⟩

end

theorem exists_leads_of_scope {selector : String}
    (h : selector = "" ∨ ∃ scope, readSelector selector = .ok scope) : ∃ f, Leads selector f := by
  have hp : Template.parse "" = .ok ⟨[]⟩ := parse_iff.2 (.text rfl)
  have led : ∃ t, Template.parseIn "" selector = .ok t := by
    by_cases he : selector.isEmpty = true
    · exact ⟨_, bind_eq_ok.2 ⟨_, hp, if_pos he⟩⟩
    · rcases h with rfl | ⟨scope, hs⟩
      · exact absurd rfl he
      · exact ⟨_, bind_eq_ok.2 ⟨_, hp, (if_neg he).trans (bind_eq_ok.2 ⟨scope, hs, rfl⟩)⟩⟩
  obtain ⟨t, ht⟩ := led
  exact exists_leads ht

theorem Leads.tryExpand {selector : String} {f : Node → Node} (hf : Leads selector f) {source : String}
    {t : Template} (h : Template.parse source = .ok t) (root : Json) :
    Template.tryExpand source root selector = Template.renderAll root (t.nodes.map f) := by
  rw [Template.tryExpand, hf.parseIn, h]
  rfl

theorem renderAll_textNodes (root : Json) (text : String) :
    renderAll root (textNodes text.toList) = .ok text := by
  have fails : ∀ node ∈ textNodes text.toList, ∀ e, ¬ node.Fails root e := by
    rintro node hm e ⟨pipeline, rfl, -⟩
    exact action_notMem_textNodes _ hm
  refine renderAll_eq_ok_iff.2 ⟨fails, String.toList_injective ?_⟩
  rw [← renderPresent_eq, renderPresent_textNodes]

theorem Leads.expand_text {selector : String} {f : Node → Node} (hf : Leads selector f) {text : String}
    (h : cut? "\x7b\x7b".toList text.toList = none) (root : Json) :
    Template.expand text root selector = text ∧ Template.tryExpand text root selector = .ok text := by
  have hp : Template.parse text = .ok ⟨textNodes text.toList⟩ := parse_iff.2 (.text h)
  rw [hf.expand hp, hf.tryExpand hp, map_textNodes hf.text]
  exact ⟨String.toList_injective (renderPresent_textNodes root _), renderAll_textNodes root text⟩

/-- Two sources that meet at neither a delimiter nor a mark expand one behind the other, and a text without
delimiters to itself. -/
theorem expand_append :
    (∀ (a b : String) (s t : Template), Template.parse a = .ok s → Template.parse b = .ok t →
      ¬ OpensBetween a.toList b.toList → ¬ TrimsBehind false a.toList → ¬ TrimsAhead b.toList →
      (∃ joined, Template.parse (a ++ b) = .ok joined) ∧
        ∀ (root : Json) (selector : String),
          (selector = "" ∨ ∃ scope, readSelector selector = .ok scope) →
          Template.expand (a ++ b) root selector =
              Template.expand a root selector ++ Template.expand b root selector ∧
            ∀ text, Template.tryExpand (a ++ b) root selector = .ok text ↔
              ∃ x y, Template.tryExpand a root selector = .ok x ∧
                Template.tryExpand b root selector = .ok y ∧ text = x ++ y) ∧
      ∀ (text : String), cut? "\x7b\x7b".toList text.toList = none → ∀ (root : Json) (selector : String),
        (selector = "" ∨ ∃ scope, readSelector selector = .ok scope) →
        Template.expand text root selector = text ∧ Template.tryExpand text root selector = .ok text := by
  constructor
  · intro a b s t ha hb opens behind ahead
    obtain ⟨joined, hj, joins⟩ := (parse_iff.1 ha).append (parse_iff.1 hb) opens behind ahead
    rw [← String.toList_append] at hj
    have hp : Template.parse (a ++ b) = .ok ⟨joined⟩ := parse_iff.2 hj
    refine ⟨⟨_, hp⟩, fun root selector hs => ?_⟩
    obtain ⟨f, hf⟩ := exists_leads_of_scope hs
    rw [hf.expand hp, hf.expand ha, hf.expand hb, hf.tryExpand hp, hf.tryExpand ha, hf.tryExpand hb]
    exact ⟨joins.renderPresent hf.text, fun text => joins.renderAll hf.text⟩
  · intro text ht root selector hs
    obtain ⟨f, hf⟩ := exists_leads_of_scope hs
    exact hf.expand_text ht root

/-- A brace on each side of the border, and marks that trim on either side of theirs; and one brace by
itself. -/
theorem expand_append_braces :
    let a := "-v \x7b\x7b- .Id -\x7d\x7d :\x7b"
    let b := "\x7d \x7b\x7b- .Env\x7d\x7d"
    let root := Json.object [("env", .string "test"), ("id", .string "0")]
    Template.expand (a ++ b) root "" = "-v0:\x7b\x7dtest" ∧
      Template.expand ":\x7b" root "" = ":\x7b" := by
  intro a b root
  have ha : (Template.parse a).toOption =
      some ⟨[.text "-v", .action [[.field ["Id"]]], .text ":\x7b"]⟩ := by decide +kernel
  have hb : (Template.parse b).toOption = some ⟨[.text "\x7d", .action [[.field ["Env"]]]]⟩ := by
    decide +kernel
  rw [toOption_eq_some] at ha hb
  have last : a.toList.getLast? = some '\x7b' := by decide +kernel
  have first : b.toList.head? = some '\x7d' := by decide +kernel
  have cut : cut? "\x7b\x7b".toList b.toList = some (['\x7d', ' '], "- .Env\x7d\x7d".toList) := by
    decide +kernel
  have opens : ¬ OpensBetween a.toList b.toList := fun h => absurd (first.symm.trans h.2) (by decide)
  have behind : ¬ TrimsBehind false a.toList := by
    intro h
    obtain ⟨h, -⟩ | ⟨c, hl, h⟩ := h.getLast?
    · cases h
    · cases last.symm.trans hl
      exact absurd h (by decide)
  have ahead : ¬ TrimsAhead b.toList := by
    rintro ⟨before, inner, hc, blank, -⟩
    cases cut.symm.trans hc
    exact absurd (blank '\x7d' List.mem_cons_self) (by decide)
  obtain ⟨-, both⟩ := expand_append.1 a b _ _ ha hb opens behind ahead
  obtain ⟨lenient, -⟩ := both root "" (.inl rfl)
  have uncut : cut? "\x7b\x7b".toList ":\x7b".toList = none := by decide +kernel
  refine ⟨?_, (expand_append.2 ":\x7b" uncut root "" (.inl rfl)).1⟩
  have left : Template.expand a root "" = "-v0:\x7b" := by decide +kernel
  have right : Template.expand b root "" = "\x7dtest" := by decide +kernel
  rw [lenient, left, right]
  rfl

end Rollout.Template
