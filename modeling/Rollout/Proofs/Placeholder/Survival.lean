import Rollout.Proofs.Placeholder.Trimming
import Rollout.Proofs.Template.Layout

/-!
# Placeholders survive expansion

The template language reads a masked text. Its delimiters are braces and no mask has one, so every
stretch and every mark of the layout is a row of whole pieces. Blanks and minus signs are not at the
ends of a mask either, so what is trimmed is the same in the text and behind the mask.
-/

namespace Rollout.Placeholder

open Text Template

/-! ## Texts without an at sign -/

/-- The pieces of a text without an at sign. -/
inductive Piece.Clear : Piece → Prop where
  | plain {c} : c ≠ '@' → Piece.Clear (.plain c)
  | reserved {blanks} : (∀ c ∈ blanks, Text.isBlank c = true) → Piece.Clear (.reserved blanks)

theorem Cut.clear {s : List Char} {pieces : List Piece} (h : Cut s pieces) (hs : '@' ∉ s) :
    ∀ piece ∈ pieces, piece.Clear := by
  induction h with
  | nil => exact fun _ hm => absurd hm List.not_mem_nil
  | marked _ ih => exact absurd (List.mem_append_left _ (by decide)) hs
  | reserved hb _ ih =>
    have hr := ih fun hm => hs (List.mem_append_right _ hm)
    exact List.forall_mem_cons.2 ⟨.reserved hb, hr⟩
  | plain _ _ _ ih =>
    rw [List.mem_cons, not_or] at hs
    exact List.forall_mem_cons.2 ⟨.plain (Ne.symm hs.1), ih hs.2⟩

variable {pieces : List Piece}

theorem unmaskChars_pieces (h : ∀ piece ∈ pieces, piece.Clear) (s : List Char) :
    unmaskChars (pieces.flatMap Piece.masked ++ s) =
      pieces.flatMap Piece.source ++ unmaskChars s := by
  unfold unmaskChars
  induction pieces with
  | nil => rfl
  | cons piece pieces ih =>
    rw [List.forall_mem_cons] at h
    rw [List.flatMap_cons, List.flatMap_cons, List.append_assoc, List.append_assoc, ← ih h.2]
    cases h.1 with
    | plain hc => exact replaceMatches_cons_none (reveal_none hc _)
    | @reserved blanks hb =>
      have hne : sentinel ++ blanks ++ ['.'] ≠ [] := by simp
      exact replaceMatches_some hne (reveal_reserved hb _) rfl

theorem unmaskChars_value {value : List Char} (h : '@' ∉ value) (s : List Char) :
    unmaskChars (value ++ s) = value ++ unmaskChars s :=
  replaceMatches_append (fun _ hc => reveal_none fun he => h (he ▸ hc)) s

/-! ## Boundaries -/

/-- A brace of a masked text is a piece of its own. -/
theorem exists_pieces_of_brace (h : ∀ piece ∈ pieces, piece.Clear) {c : Char}
    (hc : c = '\x7b' ∨ c = '\x7d') {x y : List Char}
    (hm : pieces.flatMap Piece.masked = x ++ c :: y) :
    ∃ ps qs, pieces = ps ++ .plain c :: qs ∧ ps.flatMap Piece.masked = x ∧
      qs.flatMap Piece.masked = y := by
  induction pieces generalizing x with
  | nil => simp at hm
  | cons piece pieces ih =>
    rw [List.forall_mem_cons] at h
    rw [List.flatMap_cons] at hm
    cases h.1 with
    | @plain d hd =>
      cases x with
      | nil =>
        obtain ⟨rfl, rfl⟩ := List.cons.inj hm
        exact ⟨[], pieces, rfl, rfl, rfl⟩
      | cons a x =>
        obtain ⟨rfl, hr⟩ := List.cons.inj hm
        obtain ⟨ps, qs, rfl, rfl, rfl⟩ := ih h.2 hr
        exact ⟨.plain d :: ps, qs, rfl, rfl, rfl⟩
    | @reserved blanks hb =>
      obtain ⟨x, rfl, hr⟩ := exists_of_append_eq (brace_notMem_reserved hb hc) hm
      obtain ⟨ps, qs, rfl, rfl, rfl⟩ := ih h.2 hr
      exact ⟨.reserved blanks :: ps, qs, rfl, rfl, rfl⟩

theorem eq_nil_of_masked (h : ∀ piece ∈ pieces, piece.Clear)
    (hm : pieces.flatMap Piece.masked = []) : pieces = [] := by
  cases pieces with
  | nil => rfl
  | cons piece pieces =>
    rw [List.forall_mem_cons] at h
    cases h.1 <;> cases hm

theorem exists_pieces_of_delimiter (h : ∀ piece ∈ pieces, piece.Clear) {c : Char}
    (hc : c = '\x7b' ∨ c = '\x7d') {x y : List Char}
    (hm : pieces.flatMap Piece.masked = x ++ [c, c] ++ y) :
    ∃ ps qs, pieces = ps ++ [.plain c, .plain c] ++ qs ∧ ps.flatMap Piece.masked = x ∧
      qs.flatMap Piece.masked = y := by
  rw [List.append_assoc] at hm
  obtain ⟨ps, qs, rfl, rfl, hq⟩ := exists_pieces_of_brace h hc hm
  have hqs : ∀ piece ∈ qs, piece.Clear :=
    fun piece hp => h piece (List.mem_append_right _ (List.mem_cons_of_mem _ hp))
  obtain ⟨ps', qs', rfl, hp', rfl⟩ := exists_pieces_of_brace (x := []) hqs hc hq
  obtain rfl := eq_nil_of_masked (fun piece hp => hqs piece (List.mem_append_left _ hp)) hp'
  exact ⟨ps, qs', by simp, rfl, rfl⟩

/-- A row of pieces from an opening to a closing delimiter. -/
def Enclosed (mark : List Piece) : Prop :=
  ∃ body, mark = [.plain '\x7b', .plain '\x7b'] ++ body ++ [.plain '\x7d', .plain '\x7d']

theorem exists_layout_of_pieces {layout : Layout Char}
    (hl : ∀ mark ∈ layout.marks, ∃ body, mark = ['\x7b', '\x7b'] ++ body ++ ['\x7d', '\x7d'])
    (h : ∀ piece ∈ pieces, piece.Clear) (hs : layout.source = pieces.flatMap Piece.masked) :
    ∃ whole : Layout Piece, whole.source = pieces ∧ (∀ mark ∈ whole.marks, Enclosed mark) ∧
      whole.map (·.flatMap Piece.masked) = layout := by
  induction layout generalizing pieces with
  | last text =>
    refine ⟨.last pieces, rfl, fun mark hm => absurd hm List.not_mem_nil, ?_⟩
    rw [Layout.map, ← hs, Layout.source]
  | next text mark rest ih =>
    obtain ⟨⟨body, rfl⟩, hr⟩ := List.forall_mem_cons.1 hl
    have ho : pieces.flatMap Piece.masked =
        text ++ ['\x7b', '\x7b'] ++ (body ++ ['\x7d', '\x7d'] ++ rest.source) := by
      rw [← hs, Layout.source]
      simp only [List.append_assoc]
    obtain ⟨ps, qs, rfl, rfl, hq⟩ := exists_pieces_of_delimiter h (.inl rfl) ho
    have hqs : ∀ piece ∈ qs, piece.Clear := fun piece hp => h piece (List.mem_append_right _ hp)
    obtain ⟨bs, rs, rfl, rfl, hrs⟩ := exists_pieces_of_delimiter hqs (.inr rfl) hq
    have hc : ∀ piece ∈ rs, piece.Clear := fun piece hp => hqs piece (List.mem_append_right _ hp)
    obtain ⟨whole, rfl, hw, hm⟩ := ih hr hc hrs.symm
    refine ⟨.next ps ([.plain '\x7b', .plain '\x7b'] ++ bs ++ [.plain '\x7d', .plain '\x7d']) whole,
      ?_, List.forall_mem_cons.2 ⟨⟨bs, rfl⟩, hw⟩, ?_⟩
    · simp only [Layout.source, List.append_assoc]
    · rw [Layout.map, hm]
      simp only [List.flatMap_append]
      rfl

/-! ## Layouts -/

theorem Cut.map_maskChars {s : List Char} {whole : Layout Piece} (h : Cut s whole.source) :
    (whole.map (·.flatMap Piece.source)).map maskChars = whole.map (·.flatMap Piece.masked) := by
  induction whole generalizing s with
  | last text =>
    rw [Layout.source] at h
    rw [Layout.map, Layout.map, Layout.map, h.source, h.mask]
  | next text mark rest ih =>
    rw [Layout.source] at h
    obtain ⟨hl, hr⟩ := h.append
    obtain ⟨ht, hm⟩ := hl.append
    rw [Layout.map, Layout.map, Layout.map, ht.mask, hm.mask, ih hr]

theorem Writes.trimsBefore_drop {g : Piece → List Char} (hg : Writes g) (a b : Char)
    (pieces : List Piece) :
    Template.trimsBefore (((.plain a :: .plain b :: pieces).flatMap g).drop 2) = trimsPieces pieces := by
  rw [List.flatMap_cons, List.flatMap_cons, hg.plain, hg.plain]
  exact hg.trimsBefore pieces

theorem Enclosed.trimsBefore {mark : List Piece} (h : Enclosed mark) {g : Piece → List Char}
    (hg : Writes g) : Template.trimsBefore ((mark.flatMap g).drop 2) = trimsPieces (mark.drop 2) := by
  obtain ⟨body, rfl⟩ := h
  exact hg.trimsBefore_drop _ _ _

theorem Enclosed.trimsBehind {mark : List Piece} (h : Enclosed mark) {g : Piece → List Char}
    (hg : Writes (List.reverse ∘ g)) :
    Template.trimsBefore ((mark.flatMap g).reverse.drop 2) = trimsPieces (mark.reverse.drop 2) := by
  obtain ⟨body, rfl⟩ := h
  rw [List.reverse_flatMap, List.reverse_append]
  exact hg.trimsBefore_drop _ _ _

/-- Where no value has an at sign, the mask is undone in the stretches of a layout alone. -/
theorem unmaskChars_output {value value' : List Char → List Char} {whole : Layout Piece}
    (hc : ∀ piece ∈ whole.source, piece.Clear) (hw : ∀ mark ∈ whole.marks, Enclosed mark)
    (hv : ∀ mark ∈ whole.marks, '@' ∉ value (mark.flatMap Piece.masked))
    (he : ∀ mark ∈ whole.marks, value' (mark.flatMap Piece.source) = value (mark.flatMap Piece.masked))
    (trims : Bool) :
    unmaskChars ((whole.map (·.flatMap Piece.masked)).output value trims) =
      (whole.map (·.flatMap Piece.source)).output value' trims := by
  have stretch (text : List Piece) (hc : ∀ piece ∈ text, piece.Clear) (front back : Bool)
      (s : List Char) :
      unmaskChars (trimmed front back (text.flatMap Piece.masked) ++ s) =
        trimmed front back (text.flatMap Piece.source) ++ unmaskChars s := by
    rw [trimmed_pieces writes_masked writes_masked_reverse,
      trimmed_pieces writes_source writes_source_reverse]
    exact unmaskChars_pieces (fun piece hm => hc piece ((trimmedPieces_isInfix _ _ _).subset hm)) s
  induction whole generalizing trims with
  | last text =>
    have hs := stretch text hc trims false []
    rw [List.append_nil] at hs
    rw [Layout.map, Layout.map, Layout.output, Layout.output, hs]
    exact List.append_nil _
  | next text mark rest ih =>
    rw [Layout.source, List.forall_mem_append, List.forall_mem_append] at hc
    obtain ⟨⟨ht, -⟩, hr⟩ := hc
    obtain ⟨hwm, hwr⟩ := List.forall_mem_cons.1 hw
    obtain ⟨hvm, hvr⟩ := List.forall_mem_cons.1 hv
    obtain ⟨hem, her⟩ := List.forall_mem_cons.1 he
    simp only [Layout.map, Layout.output, List.append_assoc]
    rw [stretch text ht, unmaskChars_value hvm, ih hr hwr hvr her, hem, hwm.trimsBefore writes_masked,
      hwm.trimsBefore writes_source, hwm.trimsBehind writes_masked_reverse,
      hwm.trimsBehind writes_source_reverse]

/-! ## Expansion behind the mask -/

theorem expandChars_at_notMem {selector : String} {f : Node → Node} (hf : Leads selector f) {root : Json}
    {nodes : List Node} {trims : Bool} {layout : Layout Char} (h : LayoutRead trims layout nodes)
    (values : ∀ pipeline, Node.action pipeline ∈ nodes.map f →
      ∀ text, (Node.action pipeline).render root = .ok text → '@' ∉ text.toList) :
    ∀ mark ∈ layout.marks, '@' ∉ expandChars root selector mark := by
  intro mark hm
  obtain ⟨own, -, ho, he⟩ := h.parseIn_mark hf root mark hm
  rw [he]
  rcases ho with rfl | ⟨pipeline, rfl, hn⟩
  · exact List.not_mem_nil
  · simp only [renderPresent]
    cases hr : (Node.action pipeline).render root with
    | error e => exact List.not_mem_nil
    | ok text =>
      change '@' ∉ (text ++ "").toList
      rw [String.append_empty]
      exact values pipeline hn text hr

/-- The layout of a masked text, in pieces of the text. -/
theorem exists_masked_layout {params : String} {t : Template} (plain : '@' ∉ params.toList)
    (read : Template.parse (mask params) = .ok t) :
    ∃ whole : Layout Piece, Cut params.toList whole.source ∧
      (∀ piece ∈ whole.source, piece.Clear) ∧ (∀ mark ∈ whole.marks, Enclosed mark) ∧
      (whole.map (·.flatMap Piece.masked)).source = (mask params).toList ∧
      LayoutRead false (whole.map (·.flatMap Piece.masked)) t.nodes := by
  obtain ⟨pieces, hcut⟩ := exists_cut params.toList
  have hclear := hcut.clear plain
  obtain ⟨layout, hs, hl⟩ := (parse_iff.1 read).exists_layout
  have hm : (mask params).toList = pieces.flatMap Piece.masked := by
    rw [mask, String.toList_ofList, hcut.mask]
  obtain ⟨whole, rfl, hw, rfl⟩ := exists_layout_of_pieces hl.exists_body hclear (hs.trans hm)
  exact ⟨whole, hcut, hclear, hw, hs, hl⟩

/-- What is behind the mask survives expansion. A text is laid out by the actions and comments that the
masked text has; its stretches come back as they are, less what is trimmed, with the values of the
actions between them. -/
theorem expand_masked {params selector : String} {root : Json} {led : Template}
    (plain : '@' ∉ params.toList) (read : Template.parseIn (mask params) selector = .ok led)
    (values : ∀ pipeline, Node.action pipeline ∈ led.nodes →
      ∀ text, (Node.action pipeline).render root = .ok text → '@' ∉ text.toList) :
    ∃ (layout : Layout Char) (t : Template), layout.source = params.toList ∧
      (layout.map maskChars).source = (mask params).toList ∧
      Template.parse (mask params) = .ok t ∧ LayoutRead false (layout.map maskChars) t.nodes ∧
      (∀ mark ∈ layout.marks, ∃ own,
        Template.parseIn (String.ofList (maskChars mark)) selector = .ok ⟨own⟩ ∧
        (own = [] ∨ ∃ pipeline, own = [.action pipeline] ∧ .action pipeline ∈ led.nodes) ∧
        expandChars root selector (maskChars mark) = (renderPresent root own).toList) ∧
      (unmask (Template.expand (mask params) root selector)).toList =
        layout.output (fun mark => expandChars root selector (maskChars mark)) false := by
  obtain ⟨f, hf⟩ := exists_leads read
  obtain ⟨t, hp, rfl⟩ := hf.exists_parse read
  obtain ⟨whole, hcut, hclear, hw, hs, hl⟩ := exists_masked_layout plain hp
  have hmap := hcut.map_maskChars
  have hmarks : ∀ mark ∈ whole.marks,
      maskChars (mark.flatMap Piece.source) = mark.flatMap Piece.masked := by
    have := congrArg Layout.marks hmap
    rw [Layout.marks_map, Layout.marks_map, Layout.marks_map, List.map_map] at this
    exact List.map_inj_left.1 this
  have hvalues : ∀ mark ∈ whole.marks, '@' ∉ expandChars root selector (mark.flatMap Piece.masked) := by
    intro mark hm
    apply expandChars_at_notMem hf hl values
    rw [Layout.marks_map]
    exact List.mem_map_of_mem hm
  refine ⟨whole.map (·.flatMap Piece.source), t, ?_, ?_, hp, hmap ▸ hl, ?_, ?_⟩
  · rw [Layout.source_map fun _ _ => List.flatMap_append]
    exact hcut.source
  · rw [hmap, hs]
  · intro mark hm
    apply hl.parseIn_mark hf root
    rw [← hmap, Layout.marks_map]
    exact List.mem_map_of_mem hm
  · rw [unmask, String.toList_ofList, hf.expand hp, hl.expand hf root]
    let value := fun mark => expandChars root selector (maskChars mark)
    have he : ∀ mark ∈ whole.marks,
        value (mark.flatMap Piece.source) = expandChars root selector (mark.flatMap Piece.masked) :=
      fun mark hm => congrArg (expandChars root selector) (hmarks mark hm)
    exact unmaskChars_output hclear hw hvalues he false

theorem expand_masked_user :
    let params := "\x7b\x7bansible_user \x7d\x7d \x7b\x7b- .Id \x7d\x7d\x7b\x7b/* \" */ -\x7d\x7d \x7d\x7d"
    let root := Json.object [("id", .string "web")]
    unmask (Template.expand (mask params) root "") = "\x7b\x7bansible_user \x7d\x7dweb\x7d\x7d" ∧
      ∃ layout : Layout Char, layout.source = params.toList ∧
        "\x7b\x7bansible_user \x7d\x7dweb\x7d\x7d".toList =
          layout.output (fun mark => expandChars root "" (maskChars mark)) false := by
  intro params root
  have masked : mask params =
      "@ANSIBLE.user \x7d\x7d \x7b\x7b- .Id \x7d\x7d\x7b\x7b/* \" */ -\x7d\x7d \x7d\x7d" := by
    decide +kernel
  have expanded : unmask (Template.expand (mask params) root "") =
      "\x7b\x7bansible_user \x7d\x7dweb\x7d\x7d" := by
    decide +kernel
  have read : Template.parseIn (mask params) "" =
      .ok ⟨[.text "@ANSIBLE.user \x7d\x7d", .action [[.field ["Id"]]], .text "\x7d\x7d"]⟩ := by
    rw [masked]
    rfl
  have values : ∀ pipeline, Node.action pipeline ∈
      [.text "@ANSIBLE.user \x7d\x7d", .action [[.field ["Id"]]], .text "\x7d\x7d"] →
      ∀ text, (Node.action pipeline).render root = .ok text → '@' ∉ text.toList := by
    intro pipeline hm text hr
    obtain rfl : pipeline = [[.field ["Id"]]] := by simpa using hm
    have hv : (Node.action [[.field ["Id"]]]).render root = .ok "web" := by rfl
    rw [hv] at hr
    cases hr
    decide +kernel
  obtain ⟨layout, t, hs, -, -, -, -, ho⟩ := expand_masked (by decide +kernel) read values
  refine ⟨expanded, layout, hs, ?_⟩
  rw [← ho, expanded]

end Rollout.Placeholder
