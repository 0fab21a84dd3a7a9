import Rollout.Proofs.Template.Agreement
import Rollout.Proofs.Template.Substitution

/-!
# Scopes as text

A scope can also be put into the text of a template: write `(e).P` in the place of every path `.App.P`
of an action, and read the actions again. This is the template whose paths are led through the selector
with the expression `e` (`scoped_eq_spliced`).
-/

namespace Rollout.Template

open Text

/-! ## Splicing -/

/-- What stands behind `.App` in a token that is a path from this name. -/
def Token.appPath? : Token → Option (List String)
  | .field (root :: path) => if root = appRoot then some path else none
  | _ => none

/-- A path as it is written behind an operand. -/
def pathText (path : List String) : List Char :=
  path.flatMap fun name => '.' :: name.toList

/-- The tokens of the text `(e).P` for a token `.App.P`, and any other token as it is. -/
def spliceToken (e : List Char) (located : Located) : Except TemplateError (List Located) :=
  match located.token.appPath? with
  | some path => tokensOfExpression ('(' :: (e ++ ')' :: pathText path))
  | none => .ok [located]

def Segment.splice (e : List Char) : Segment → Except TemplateError Segment
  | .text value => .ok (.text value)
  | .action tokens pos => do
    let spliced ← tokens.mapM (spliceToken e)
    .ok (.action spliced.flatten pos)

/-- Reads a template with `(e)` in the place of `.App`. -/
def parseSpliced (e : List Char) (source : String) : Except TemplateError Template := do
  let segments ← segments source.toList
  let spliced ← segments.mapM (Segment.splice e)
  let nodes ← nodesOfSegments spliced
  .ok ⟨nodes⟩

/-! ## Written paths -/

def IsName (name : String) : Prop :=
  ∃ c cs, name.toList = c :: cs ∧ isIdentStart c = true ∧ ∀ d ∈ cs, isIdentChar d = true

theorem isName_of_scanPath {s rest : List Char} {path : List String} (h : scanPath s = (path, rest)) :
    ∀ name ∈ path, IsName name := by
  induction hn : s.length using Nat.strongRecOn generalizing s path with
  | ind n ih =>
    by_cases hs : startsPath s = true
    · obtain ⟨c, cs, rfl, hc⟩ := exists_of_startsPath hs
      rw [scanPath_name hc, Prod.mk.injEq] at h
      obtain ⟨rfl, rfl⟩ := h
      have lt : (cs.dropWhile isIdentChar).length < n := by
        have := (List.dropWhile_suffix isIdentChar (l := cs)).length_le
        simp only [← hn, List.length_cons]
        omega
      refine List.forall_mem_cons.2 ⟨⟨c, _, String.toList_ofList, hc, ?_⟩, ih _ lt rfl rfl⟩
      exact fun _ => List.mem_takeWhile_imp
    · rw [Bool.not_eq_true] at hs
      rw [scanPath_of_not_startsPath hs, Prod.mk.injEq] at h
      rw [← h.1]
      exact List.forall_mem_nil _

theorem scanPath_pathText {path : List String} (h : ∀ name ∈ path, IsName name) :
    scanPath (pathText path) = (path, []) := by
  induction path with
  | nil => rfl
  | cons name path ih =>
    rw [List.forall_mem_cons] at h
    obtain ⟨⟨c, cs, hn, hc, hcs⟩, hp⟩ := h
    have hh : ∀ d ∈ (pathText path).head?, isIdentChar d = false := by
      cases path with
      | nil => nofun
      | cons name path =>
        rintro d ⟨⟩
        rfl
    obtain ⟨ht, hd⟩ := takeWhile_append_of_all hcs hh
    rw [pathText, List.flatMap_cons, hn, ← pathText]
    simp only [List.cons_append]
    rw [scanPath_name hc, ht, hd, ih hp, ← hn, String.ofList_toList]

def pathTokens : List String → List Token
  | [] => []
  | path => [.chain path]

theorem tokenized_pathText {path : List String} (h : ∀ name ∈ path, IsName name) :
    Tokenized true (pathText path) (pathTokens path) none := by
  cases path with
  | nil => exact .nil
  | cons name path =>
    have hs : pathText (name :: path) = '.' :: (name.toList ++ pathText path) := rfl
    have hp := scanPath_pathText h
    rw [hs] at hp ⊢
    exact .token rfl rfl (by simp only [scanToken, hp]; rfl) .nil

/-! ## Spliced tokens -/

theorem Token.appPath?_eq_some_iff {token : Token} {path : List String} :
    token.appPath? = some path ↔ token = .field (appRoot :: path) := by
  unfold appPath?
  split
  · rename_i root path'
    by_cases hr : root = appRoot <;> simp [hr]
  · rename_i h
    exact ⟨nofun, fun ht => (h _ _ ht).elim⟩

theorem Scanned.isName {token : Token} (h : Scanned token) {path : List String}
    (hp : token.appPath? = some path) : ∀ name ∈ path, IsName name := by
  obtain ⟨glued, s, rest, hs⟩ := h
  obtain ⟨-, hs, -⟩ := scanToken_path hs (congrArg Token.path? (Token.appPath?_eq_some_iff.1 hp))
  exact (List.forall_mem_cons.1 (isName_of_scanPath hs)).2

/-- What a token becomes if a path from `.App` becomes one from a group of tokens. -/
def Token.spliced (group : List Token) (token : Token) : List Token :=
  match token.appPath? with
  | some path => group ++ pathTokens path
  | none => [token]

section

variable {e : List Char} {tokens : List Token}

theorem spliceToken_eq_ok (he : Tokenized false e tokens none) {located : Located}
    (hs : Scanned located.token) :
    ∃ spliced, spliceToken e located = .ok spliced ∧ spliced.map (·.token) =
      located.token.spliced (.openGroup :: (tokens ++ [.closeGroup])) := by
  unfold spliceToken Token.spliced
  cases hp : located.token.appPath? with
  | none => exact ⟨[located], rfl, rfl⟩
  | some path =>
    obtain ⟨spliced, hok, ht⟩ :=
      tokensOfExpression_of_tokenized (he.grouped (tokenized_pathText (hs.isName hp)))
    exact ⟨spliced, hok, by simp [ht]⟩

theorem spliceTokens_eq_ok (he : Tokenized false e tokens none) {located : List Located}
    (hs : ∀ l ∈ located, Scanned l.token) :
    ∃ spliced, located.mapM (spliceToken e) = .ok spliced ∧ spliced.flatten.map (·.token) =
      (located.map (·.token)).flatMap (Token.spliced (.openGroup :: (tokens ++ [.closeGroup]))) := by
  induction located with
  | nil => exact ⟨[], rfl, rfl⟩
  | cons l located ih =>
    rw [List.forall_mem_cons] at hs
    obtain ⟨first, hf, hft⟩ := spliceToken_eq_ok he hs.1
    obtain ⟨rest, hr, hrt⟩ := ih hs.2
    refine ⟨first :: rest, ?_, by simp [hft, hrt]⟩
    exact mapM_eq_ok_iff.2 (.cons hf (mapM_eq_ok_iff.1 hr))

end

/-! ## Written pipelines -/

section

variable {scope : Operand}

theorem tokens_redirectPath (scope : Operand) (path : List String) :
    (redirectPath scope path).tokens = Token.spliced scope.tokens (.field path) := by
  cases path with
  | nil => rfl
  | cons root path =>
    unfold redirectPath Token.spliced Token.appPath?
    by_cases hr : root = appRoot
    · cases path <;> simp [hr, pathTokens, Operand.tokens]
    · simp [hr, Operand.tokens]

mutual

theorem Operand.tokens_redirect (scope operand : Operand) :
    (Operand.redirect scope operand).tokens = operand.tokens.flatMap (Token.spliced scope.tokens) := by
  match operand with
  | .dot | .function _ | .int _ | .text _ | .truth _ | .nothing => rfl
  | .field path =>
    rw [Operand.redirect, tokens_redirectPath, Operand.tokens, List.flatMap_singleton]
  | .chain base path =>
    rw [Operand.redirect, Operand.tokens, Operand.tokens, Operand.tokens_redirect scope base,
      List.flatMap_append]
    rfl
  | .group commands =>
    rw [Operand.redirect, Operand.tokens, Operand.tokens, Pipeline.tokens_redirect scope commands,
      List.flatMap_cons, List.flatMap_append]
    rfl

theorem Command.tokens_redirect (scope : Operand) (command : List Operand) :
    Command.tokens (Command.redirect scope command) =
      (Command.tokens command).flatMap (Token.spliced scope.tokens) := by
  match command with
  | [] => rfl
  | operand :: rest =>
    rw [Command.redirect, Command.tokens, Command.tokens, Operand.tokens_redirect scope operand,
      Command.tokens_redirect scope rest, List.flatMap_append]

theorem Pipeline.tokens_redirect (scope : Operand) (commands : List (List Operand)) :
    Pipeline.tokens (Pipeline.redirect scope commands) =
      (Pipeline.tokens commands).flatMap (Token.spliced scope.tokens) := by
  match commands with
  | [] => rfl
  | [command] => exact Command.tokens_redirect scope command
  | command :: next :: rest =>
    have ih := Pipeline.tokens_redirect scope (next :: rest)
    rw [Pipeline.redirect] at ih
    rw [Pipeline.redirect, Pipeline.redirect, Pipeline.tokens, Pipeline.tokens, ih,
      Command.tokens_redirect scope command, List.flatMap_append, List.flatMap_cons]
    rfl

end

def Operand.isGroup : Operand → Bool
  | .group _ => true
  | _ => false

theorem Pipeline.redirect_isEmpty (scope : Operand) (commands : Pipeline) :
    (Pipeline.redirect scope commands).isEmpty = commands.isEmpty := by
  cases commands <;> rfl

section

variable {takes takes' : Operand → Bool}

theorem wellFormed_redirectPath (hs : scope.wellFormed takes = true) (hc : takes scope = true)
    (path : List String) : (redirectPath scope path).wellFormed takes = true := by
  unfold redirectPath
  split
  · rfl
  · split
    · split
      · exact hs
      · simp [Operand.wellFormed, hs, hc]
    · rfl

mutual

theorem Operand.wellFormed_redirect (hs : scope.wellFormed takes' = true) (hc : takes' scope = true)
    (ht : ∀ base, takes base = true → takes' (Operand.redirect scope base) = true) {operand : Operand}
    (h : operand.wellFormed takes = true) :
    (Operand.redirect scope operand).wellFormed takes' = true := by
  match operand with
  | .dot | .function _ | .int _ | .text _ | .truth _ | .nothing => rfl
  | .field path => exact wellFormed_redirectPath hs hc path
  | .chain base path =>
    rw [Operand.wellFormed, Bool.and_eq_true] at h
    rw [Operand.redirect, Operand.wellFormed, ht base h.1, Operand.wellFormed_redirect hs hc ht h.2]
    rfl
  | .group commands =>
    rw [Operand.wellFormed, Bool.and_eq_true] at h
    rw [Operand.redirect, Operand.wellFormed, Pipeline.allWellFormed_redirect hs hc ht h.2,
      Bool.and_true, Pipeline.redirect_isEmpty]
    exact h.1

theorem Command.allWellFormed_redirect (hs : scope.wellFormed takes' = true)
    (hc : takes' scope = true)
    (ht : ∀ base, takes base = true → takes' (Operand.redirect scope base) = true)
    {command : List Operand} (h : Command.allWellFormed takes command = true) :
    Command.allWellFormed takes' (Command.redirect scope command) = true := by
  match command with
  | [] => rfl
  | operand :: rest =>
    rw [Command.allWellFormed, Bool.and_eq_true] at h
    rw [Command.redirect, Command.allWellFormed, Operand.wellFormed_redirect hs hc ht h.1,
      Command.allWellFormed_redirect hs hc ht h.2, Bool.and_true]

theorem Pipeline.allWellFormed_redirect (hs : scope.wellFormed takes' = true)
    (hc : takes' scope = true)
    (ht : ∀ base, takes base = true → takes' (Operand.redirect scope base) = true)
    {commands : List (List Operand)} (h : Pipeline.allWellFormed takes commands = true) :
    Pipeline.allWellFormed takes' (Pipeline.redirect scope commands) = true := by
  match commands with
  | [] => rfl
  | command :: rest =>
    rw [Pipeline.allWellFormed, Bool.and_eq_true, Bool.and_eq_true] at h
    rw [Pipeline.redirect, Pipeline.allWellFormed, Command.redirect_isEmpty, h.1.1,
      Command.allWellFormed_redirect hs hc ht h.1.2, Pipeline.allWellFormed_redirect hs hc ht h.2]
    rfl

end

end

/-! ## Glued paths -/

/-- Whether each chain stands behind a closing parenthesis. -/
def GluedToGroups (tokens : List Token) : Prop :=
  tokens.IsChain fun a b => ∀ path, b = .chain path → a = .closeGroup

theorem Tokenized.gluedToGroups {glued : Bool} {s : List Char} {tokens : List Token}
    {closing : Option Closing} (h : Tokenized glued s tokens closing) :
    GluedToGroups tokens ∧ ∀ path, tokens.head? = some (.chain path) → glued = true := by
  induction h with
  | nil | trim | close => exact ⟨.nil, nofun⟩
  | blank _ _ _ ih => exact ⟨ih.1, fun path hp => absurd (ih.2 path hp) Bool.false_ne_true⟩
  | token _ _ ht _ ih =>
    refine ⟨List.isChain_cons.2 ⟨?_, ih.1⟩, ?_⟩
    · rintro b hb path rfl
      simpa using ih.2 path hb
    · rintro path ⟨⟩
      obtain ⟨-, -, hg⟩ := scanToken_path ht rfl
      split at hg
      · assumption
      · cases hg

mutual

/-- If each chain stands behind a parenthesis, each path is glued to a group. -/
theorem Operand.wellFormed_isGroup {operand : Operand} (h : operand.wellFormed (!·.isChain) = true)
    (hg : GluedToGroups operand.tokens) : operand.wellFormed Operand.isGroup = true := by
  match operand with
  | .dot | .field _ | .function _ | .int _ | .text _ | .truth _ | .nothing => rfl
  | .chain base path =>
    rw [Operand.wellFormed, Bool.and_eq_true] at h
    obtain ⟨hb, -, hl⟩ := List.isChain_append.1 hg
    rw [Operand.wellFormed, Operand.wellFormed_isGroup h.2 hb, Bool.and_true]
    have hl (token : Token) (ht : base.tokens.getLast? = some token) : token = .closeGroup :=
      hl token ht _ rfl path rfl
    match base with
    | .group _ => rfl
    | .chain _ _ => cases h.1
    | .dot | .field _ | .function _ | .int _ | .text _ | .truth _ | .nothing => cases hl _ rfl
  | .group commands =>
    rw [Operand.wellFormed, Bool.and_eq_true] at h
    rw [Operand.wellFormed, h.1, Bool.true_and]
    exact Pipeline.allWellFormed_isGroup h.2 (List.isChain_append.1 (List.isChain_cons.1 hg).2).1

theorem Command.allWellFormed_isGroup {command : List Operand}
    (h : Command.allWellFormed (!·.isChain) command = true)
    (hg : GluedToGroups (Command.tokens command)) :
    Command.allWellFormed Operand.isGroup command = true := by
  match command with
  | [] => rfl
  | operand :: rest =>
    rw [Command.allWellFormed, Bool.and_eq_true] at h
    obtain ⟨ho, hr, -⟩ := List.isChain_append.1 hg
    rw [Command.allWellFormed, Operand.wellFormed_isGroup h.1 ho, Command.allWellFormed_isGroup h.2 hr]
    rfl

theorem Pipeline.allWellFormed_isGroup {commands : List (List Operand)}
    (h : Pipeline.allWellFormed (!·.isChain) commands = true)
    (hg : GluedToGroups (Pipeline.tokens commands)) :
    Pipeline.allWellFormed Operand.isGroup commands = true := by
  match commands with
  | [] => rfl
  | [command] =>
    rw [Pipeline.allWellFormed, Bool.and_eq_true, Bool.and_eq_true] at h
    rw [Pipeline.allWellFormed, h.1.1, Command.allWellFormed_isGroup h.1.2 hg]
    rfl
  | command :: next :: rest =>
    rw [Pipeline.allWellFormed, Bool.and_eq_true, Bool.and_eq_true] at h
    obtain ⟨hc, hr, -⟩ := List.isChain_append.1 hg
    rw [Pipeline.allWellFormed, h.1.1, Command.allWellFormed_isGroup h.1.2 hc,
      Pipeline.allWellFormed_isGroup h.2 (List.isChain_cons.1 hr).2]
    rfl

end

theorem TokensRead.redirect {glued : Bool} {s : List Char} {closing : Option Closing}
    {tokens : List Token} {pipeline : Pipeline} (hs : scope.wellFormed (!·.isChain) = true)
    (hc : scope.isChain = false) (h : TokensRead tokens pipeline)
    (ht : Tokenized glued s tokens closing) :
    TokensRead (tokens.flatMap (Token.spliced scope.tokens)) (Pipeline.redirect scope pipeline) := by
  obtain ⟨rfl, hw⟩ := tokensRead_iff.1 h
  rw [Pipeline.wellFormed, Bool.and_eq_true] at hw
  refine tokensRead_iff.2 ⟨(Pipeline.tokens_redirect scope pipeline).symm, ?_⟩
  rw [Pipeline.wellFormed, Pipeline.redirect_isEmpty, hw.1, Bool.true_and]
  -- Where a path is glued to groups only, none is glued to a path that leads through a selector.
  have groups (base : Operand) (hb : base.isGroup = true) :
      (!(Operand.redirect scope base).isChain) = true := by
    cases base with
    | group commands => rfl
    | _ => cases hb
  exact Pipeline.allWellFormed_redirect hs (by simp [hc]) groups
    (Pipeline.allWellFormed_isGroup hw.2 ht.gluedToGroups.1)

end

/-! ## Segments -/

/-- Whether the tokens of a segment were found in some text. -/
def Segment.Lexed : Segment → Prop
  | .text _ => True
  | .action tokens _ => ∃ s closing, Tokenized false s (tokens.map (·.token)) closing

theorem lexed_of_readInner {total pos : Nat} {inner : List Char} {inside : List Segment}
    {closing : Closing} (h : readInner total pos inner = .ok (inside, closing)) :
    ∀ segment ∈ inside, segment.Lexed := by
  unfold readInner at h
  simp only at h
  split at h
  · split at h <;> cases h
    exact List.forall_mem_nil _
  · obtain ⟨⟨tokens, closing'⟩, ht, h⟩ := bind_eq_ok.1 h
    cases closing' with
    | none => cases h
    | some closing' =>
      cases h
      exact List.forall_mem_singleton.2 ⟨_, _, tokenized_of_tokenize ht⟩

theorem lexed_of_split {total : Nat} {trims : Bool} {s : List Char} {segments : List Segment}
    (h : split total trims s = .ok segments) : ∀ segment ∈ segments, segment.Lexed := by
  have action (inner : List Char) : Ensures (fun r => ∀ segment ∈ r.1, segment.Lexed) (fun _ => True)
      (readInner total (total - byteLength inner - 2) inner) :=
    (ensures_of_error fun _ _ => trivial).mono (fun _ hi => lexed_of_readInner hi) fun _ h => h
  exact (split_rule (fun _ => trivial) (fun inner _ => action inner) trims).ok h

section

variable {e : List Char} {expression : Pipeline}

theorem splice_eq_ok {tokens : List Token} (he : Tokenized false e tokens none)
    (hr : TokensRead tokens expression) {segments : List Segment} {nodes : List Node}
    (hs : ∀ segment ∈ segments, segment.Lexed) (hn : nodesOfSegments segments = .ok nodes) :
    ∃ spliced, segments.mapM (Segment.splice e) = .ok spliced ∧
      nodesOfSegments spliced = .ok (nodes.map (Node.redirect (.group expression))) := by
  obtain ⟨rfl, hw⟩ := tokensRead_iff.1 hr
  induction segments generalizing nodes with
  | nil =>
    cases hn
    exact ⟨[], rfl, rfl⟩
  | cons segment segments ih =>
    rw [List.forall_mem_cons] at hs
    cases segment with
    | text value =>
      obtain ⟨rest, hrest, h⟩ := bind_eq_ok.1 hn
      cases h
      obtain ⟨spliced, hm, hnodes⟩ := ih hs.2 hrest
      exact ⟨.text value :: spliced, mapM_eq_ok_iff.2 (.cons rfl (mapM_eq_ok_iff.1 hm)),
        bind_eq_ok.2 ⟨_, hnodes, rfl⟩⟩
    | action located pos =>
      obtain ⟨pipeline, hp, hn⟩ := bind_eq_ok.1 hn
      obtain ⟨rest, hrest, h⟩ := bind_eq_ok.1 hn
      cases h
      obtain ⟨spliced, hm, hnodes⟩ := ih hs.2 hrest
      obtain ⟨text, closing, ht⟩ := hs.1
      obtain ⟨parts, hparts, htokens⟩ := spliceTokens_eq_ok he fun l hl =>
        ht.scanned _ (List.mem_map_of_mem hl)
      -- The action was read from some text, so that its paths are glued to groups only.
      have hscope : (Operand.group expression).wellFormed (!·.isChain) = true := hw
      have hread := (readPipeline_iff.1 hp).redirect hscope rfl ht
      rw [Operand.tokens, ← htokens] at hread
      exact ⟨.action parts.flatten pos :: spliced,
        mapM_eq_ok_iff.2 (.cons (bind_eq_ok.2 ⟨_, hparts, rfl⟩) (mapM_eq_ok_iff.1 hm)),
        bind_eq_ok.2 ⟨_, readPipeline_iff.2 hread, bind_eq_ok.2 ⟨_, hnodes, rfl⟩⟩⟩

end

/-- Leading the paths of a template through a selector is writing the selector's expression in
parentheses in the place of `.App`, and reading the template so written. -/
theorem scoped_eq_spliced {source e : String} {t : Template} {expression : Pipeline}
    (read : Template.parse source = .ok t) (opens : ¬ "\x7b\x7b".toList <:+: e.toList)
    (closes : ¬ "\x7d\x7d".toList <:+: e.toList) (selected : readExpression e.toList = .ok expression) :
    ∃ led, t.scoped ("\x7b\x7b" ++ e ++ "\x7d\x7d") = .ok led ∧
      parseSpliced e.toList source = .ok led := by
  obtain ⟨segments, hs, h⟩ := bind_eq_ok.1 read
  obtain ⟨nodes, hn, h⟩ := bind_eq_ok.1 h
  cases h
  obtain ⟨tokens, he, hr⟩ := readExpression_iff.1 selected
  obtain ⟨spliced, hm, hnodes⟩ := splice_eq_ok he hr (lexed_of_split hs) hn
  exact ⟨_, bind_eq_ok.2 ⟨_, readSelector_of_readExpression opens closes selected, rfl⟩,
    bind_eq_ok.2 ⟨_, hs, bind_eq_ok.2 ⟨_, hm, bind_eq_ok.2 ⟨_, hnodes, rfl⟩⟩⟩⟩

theorem scoped_eq_spliced_ports :
    let selected : Operand := .group [[.function .index, .field ["Apps"], .int 2]]
    (Template.parse "\x7b\x7bindex .App.Ports 0\x7d\x7d-\x7b\x7b(.Apps).App | print .App\x7d\x7d").isOk ∧
      parseSpliced "index .Apps 2".toList
          "\x7b\x7bindex .App.Ports 0\x7d\x7d-\x7b\x7b(.Apps).App | print .App\x7d\x7d" =
        .ok ⟨[.action [[.function .index, .chain selected ["Ports"], .int 0]], .text "-",
          .action [[.chain (.group [[.field ["Apps"]]]) ["App"]], [.function .print, selected]]]⟩ := by
  intro selected
  have read : Template.parse
      "\x7b\x7bindex .App.Ports 0\x7d\x7d-\x7b\x7b(.Apps).App | print .App\x7d\x7d" = .ok
      ⟨[.action [[.function .index, .field ["App", "Ports"], .int 0]], .text "-",
        .action [[.chain (.group [[.field ["Apps"]]]) ["App"]], [.function .print, .field ["App"]]]]⟩ := by
    rfl
  have expression : readExpression "index .Apps 2".toList =
      .ok [[.function .index, .field ["Apps"], .int 2]] := by
    rfl
  obtain ⟨led, hl, hs⟩ := scoped_eq_spliced read (by decide) (by decide) expression
  refine ⟨by rw [read]; rfl, hs.trans (hl.symm.trans ?_)⟩
  rfl

end Rollout.Template
