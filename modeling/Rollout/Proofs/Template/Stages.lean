import Rollout.Proofs.Template.Expansion
import Rollout.Proofs.Template.Fault
import Rollout.Proofs.Template.Selector
import Rollout.Proofs.Template.Spelling

/-!
# Errors of reading and of evaluation

Some errors can only be met while a template is read, and the others only while its actions are
evaluated. So whether an expansion fails with one of the first does not depend on the value that the
template is rendered against (`errors_by_stage`).
-/

namespace Rollout

/-- Whether an error says that something is not written as it has to be. -/
def TemplateError.isReading : TemplateError → Bool
  | .unclosedAction _ | .unclosedComment _ | .unterminatedString _ | .unexpected _ _
  | .emptyCommand _ | .unknownFunction _ => true
  | _ => false

namespace Template

/-! ## Reading -/

section

variable {s : List Char} {source selector : String} {e : TemplateError}

/-- An error of reading, but not the one of a chain that there is nothing to glue to. -/
def ReadingError (e : TemplateError) : Prop :=
  e.isReading = true ∧ ∀ path pos, e ≠ .unexpected (.token (.chain path)) pos

theorem CausedIn.readingError {source : List Char} (h : CausedIn source s e) : ReadingError e := by
  obtain ⟨_, _, _, cause⟩ := h
  cases cause <;> exact ⟨rfl, nofun⟩

theorem RowFault.readingError {last : Nat} {tokens : List Located} (h : RowFault last tokens e) :
    ReadingError e := by
  cases h <;> exact ⟨rfl, nofun⟩

theorem readingError_of_tokensOfExpression (h : tokensOfExpression s = .error e) : ReadingError e := by
  obtain ht | ⟨⟨tokens, closing⟩, -, h⟩ := bind_eq_error.1 h
  · exact ((tokenize_ensures s false s).error ht).readingError
  · match closing with
    | none => cases h
    | some ⟨_, false⟩ | some ⟨_, true⟩ =>
      cases h
      exact ⟨rfl, nofun⟩

theorem readingError_of_readSelector (h : readSelector selector = .error e) : ReadingError e := by
  obtain hr | ⟨pipeline, -, h⟩ := bind_eq_error.1 h
  · obtain ht | ⟨tokens, ht, hp⟩ := bind_eq_error.1 hr
    · exact readingError_of_tokensOfExpression ht
    · exact ((readPipeline_ensures (tokenized_of_tokensOfExpression ht)).error hp).readingError
  · cases h

theorem readingError_of_parse (h : Template.parse source = .error e) : ReadingError e := by
  obtain caused | ⟨cut, tokens, start, hs, hm, hr⟩ := parse_error_cases h
  · exact caused.readingError
  · obtain ⟨text, closing, ht⟩ := lexed_of_split hs _ hm
    exact ((readPipeline_ensures ht).error hr).readingError

theorem readingError_of_parseIn (h : Template.parseIn source selector = .error e) :
    ReadingError e := by
  obtain hp | ⟨t, -, h⟩ := bind_eq_error.1 h
  · exact readingError_of_parse hp
  · split at h
    · cases h
    · obtain hs | ⟨scope, -, h⟩ := bind_eq_error.1 h
      · exact readingError_of_readSelector hs
      · cases h

end

/-! ## What is read -/

/-- Whether each name among some tokens is that of a function. -/
def NamesFunctions (tokens : List Token) : Prop :=
  ∀ name, .ident name ∈ tokens → ∃ builtin : Builtin, name = builtin.name

mutual

theorem Operand.namesFunctions (operand : Operand) : NamesFunctions operand.tokens := by
  intro name h
  match operand with
  | .dot | .field _ | .int _ | .text _ | .truth _ | .nothing => cases List.mem_singleton.1 h
  | .function builtin =>
    cases List.mem_singleton.1 h
    exact ⟨builtin, rfl⟩
  | .chain base path =>
    obtain h | h := List.mem_append.1 h
    · exact Operand.namesFunctions base name h
    · cases List.mem_singleton.1 h
  | .group commands =>
    obtain h | h := List.mem_append.1 ((List.mem_cons.1 h).resolve_left nofun)
    · exact Pipeline.namesFunctions commands name h
    · cases List.mem_singleton.1 h

theorem Command.namesFunctions (command : List Operand) : NamesFunctions (Command.tokens command) := by
  intro name h
  match command with
  | [] => cases h
  | operand :: rest =>
    obtain h | h := List.mem_append.1 h
    · exact Operand.namesFunctions operand name h
    · exact Command.namesFunctions rest name h

theorem Pipeline.namesFunctions (commands : List (List Operand)) :
    NamesFunctions (Pipeline.tokens commands) := by
  intro name h
  match commands with
  | [] => cases h
  | [command] => exact Command.namesFunctions command name h
  | command :: next :: rest =>
    obtain h | h := List.mem_append.1 h
    · exact Command.namesFunctions command name h
    · exact Pipeline.namesFunctions (next :: rest) name ((List.mem_cons.1 h).resolve_left nofun)

end

/-- A name that no function has cannot be read. -/
theorem namesFunctions_of_readPipeline {start : Nat} {tokens : List Located} {pipeline : Pipeline}
    (h : readPipeline start tokens = .ok pipeline) : NamesFunctions (tokens.map (·.token)) := by
  obtain ⟨ht, -⟩ := tokensRead_iff.1 (readPipeline_iff.1 h)
  rw [ht]
  exact Pipeline.namesFunctions pipeline

theorem exists_readPipeline {cut : List Segment} {nodes : List Node} {tokens : List Located}
    {start : Nat} (h : nodesOfSegments cut = .ok nodes) (hm : .action tokens start ∈ cut) :
    ∃ pipeline, readPipeline start tokens = .ok pipeline := by
  obtain ⟨front, behind, rfl⟩ := List.append_of_mem hm
  obtain ⟨_, _, -, hb, -⟩ := nodesOfSegments_append.1 h
  obtain ⟨pipeline, hp, -⟩ := bind_eq_ok.1 hb
  exact ⟨pipeline, hp⟩

theorem namesFunctions_of_parse {source : String} {t : Template} (h : Template.parse source = .ok t)
    {cut : List Segment} (hs : segments source.toList = .ok cut) {tokens : List Located} {start : Nat}
    (hm : .action tokens start ∈ cut) : NamesFunctions (tokens.map (·.token)) := by
  obtain ⟨cut', hs', h⟩ := bind_eq_ok.1 h
  cases hs.symm.trans hs'
  obtain ⟨nodes, hn, -⟩ := bind_eq_ok.1 h
  obtain ⟨pipeline, hp⟩ := exists_readPipeline hn hm
  exact namesFunctions_of_readPipeline hp

theorem namesFunctions_of_readSelector {selector : String} {scope : Operand}
    (h : readSelector selector = .ok scope) {tokens : List Located}
    (ht : tokensOfExpression (groupDelimiters selector.toList) = .ok tokens) :
    NamesFunctions (tokens.map (·.token)) := by
  obtain ⟨pipeline, hr, -⟩ := bind_eq_ok.1 h
  obtain ⟨tokens', ht', hp⟩ := bind_eq_ok.1 hr
  cases ht.symm.trans ht'
  exact namesFunctions_of_readPipeline hp

/-- Whether a pipeline has a command and each command an operand, at every depth, and each name in it
is that of a function. -/
structure Pipeline.Complete (pipeline : Pipeline) : Prop where
  ne_nil : pipeline ≠ []
  filled : Pipeline.allWellFormed (fun _ => true) pipeline = true
  functions : NamesFunctions (Pipeline.tokens pipeline)

def Node.Complete : Node → Prop
  | .text _ => True
  | .action pipeline => pipeline.Complete

theorem TokensRead.complete {tokens : List Token} {pipeline : Pipeline} (h : TokensRead tokens pipeline) :
    pipeline.Complete := by
  obtain ⟨-, hw⟩ := tokensRead_iff.1 h
  rw [Pipeline.wellFormed, Bool.and_eq_true] at hw
  exact ⟨by simpa using hw.1, Pipeline.allWellFormed_mono (fun _ _ => rfl) hw.2,
    Pipeline.namesFunctions pipeline⟩

theorem complete_of_parse {source : String} {t : Template} (h : Template.parse source = .ok t) :
    ∀ node ∈ t.nodes, node.Complete := by
  intro node hm
  cases node with
  | text value => trivial
  | action pipeline =>
    obtain ⟨_, _, _, -, hr⟩ := (parse_iff.1 h).exists_read hm
    exact hr.complete

/-- A selector that is a single operand is taken out of its command and its pipeline. -/
theorem filled_of_readSelector {selector : String} {scope : Operand}
    (h : readSelector selector = .ok scope) : scope.wellFormed (fun _ => true) = true := by
  obtain ⟨pipeline, hr, h⟩ := bind_eq_ok.1 h
  cases h
  obtain ⟨tokens, -, read⟩ := readExpression_iff.1 hr
  obtain ⟨ne_nil, filled, -⟩ := read.complete
  unfold Pipeline.operand
  split
  · simpa [Pipeline.allWellFormed, Command.allWellFormed] using filled
  · simp [Operand.wellFormed, filled, ne_nil]

theorem Node.Complete.redirect {scope : Operand} {node : Node}
    (hs : scope.wellFormed (fun _ => true) = true) (h : node.Complete) :
    (node.redirect scope).Complete := by
  cases node with
  | text value => trivial
  | action pipeline =>
    obtain ⟨ne_nil, filled, -⟩ := h
    refine ⟨fun he => ne_nil ?_, ?_, Pipeline.namesFunctions _⟩
    · rw [← List.isEmpty_iff, ← Pipeline.redirect_isEmpty scope, he]
      rfl
    · exact Pipeline.allWellFormed_redirect hs rfl (fun _ _ => rfl) filled

theorem complete_of_scoped {t led : Template} {selector : String}
    (complete : ∀ node ∈ t.nodes, node.Complete) (h : t.scoped selector = .ok led) :
    ∀ node ∈ led.nodes, node.Complete := by
  obtain ⟨scope, hs, h⟩ := bind_eq_ok.1 h
  cases h
  intro node hm
  obtain ⟨node, hn, rfl⟩ := List.mem_map.1 hm
  exact (complete node hn).redirect (filled_of_readSelector hs)

theorem complete_of_parseIn {source selector : String} {t : Template}
    (h : Template.parseIn source selector = .ok t) : ∀ node ∈ t.nodes, node.Complete := by
  obtain ⟨unscoped, hp, h⟩ := bind_eq_ok.1 h
  have complete := complete_of_parse hp
  split at h
  · cases h
    exact complete
  · exact complete_of_scoped complete h

/-! ## Evaluation -/

section

variable {root : Json}

/-- Whether a computation fails with no error of reading. -/
def NeverReading {α : Type} (x : Except TemplateError α) : Prop :=
  Ensures (fun _ => True) (·.isReading = false) x

theorem walk_neverReading (value : Json) (path : List String) : NeverReading (walk value path) := by
  induction path generalizing value with
  | nil => trivial
  | cons name path ih =>
    have field : NeverReading (fieldOf value name) := by
      unfold fieldOf
      split
      · split
        · trivial
        · rfl
      · rfl
    exact field.bind fun member _ => ih member

theorem indexAll_neverReading (target : Json) (keys : List Json) :
    NeverReading (indexAll target keys) := by
  induction keys generalizing target with
  | nil => trivial
  | cons key keys ih =>
    have one : NeverReading (indexOne target key) := by
      unfold indexOne
      split
      · simp only
        split
        · rfl
        · split
          · trivial
          · rfl
      · trivial
      · rfl
    exact one.bind fun item _ => ih item

theorem Builtin.call_neverReading (builtin : Builtin) (args : List Json) :
    NeverReading (builtin.call args) := by
  unfold Builtin.call
  split
  · exact indexAll_neverReading _ _
  · rfl
  · unfold size
    split
    · trivial
    · trivial
    · trivial
    · rfl
  · rfl
  · trivial
  · trivial
  · rfl
  · rfl

mutual

theorem Operand.eval_neverReading {operand : Operand} (h : operand.wellFormed (fun _ => true) = true) :
    NeverReading (operand.eval root) := by
  match operand with
  | .dot | .int _ | .text _ | .truth _ | .nothing => trivial
  | .field path => exact walk_neverReading root path
  | .function builtin => exact builtin.call_neverReading []
  | .chain base path =>
    rw [Operand.wellFormed, Bool.and_eq_true] at h
    exact (Operand.eval_neverReading h.2).bind fun value _ => walk_neverReading value path
  | .group commands =>
    rw [Operand.wellFormed, Bool.and_eq_true] at h
    exact Pipeline.eval_neverReading h.2 none

theorem Operand.evalAll_neverReading {operands : List Operand}
    (h : Command.allWellFormed (fun _ => true) operands = true) :
    NeverReading (Operand.evalAll root operands) := by
  match operands with
  | [] => trivial
  | operand :: rest =>
    rw [Command.allWellFormed, Bool.and_eq_true] at h
    exact (Operand.eval_neverReading h.1).bind fun _ _ =>
      (Operand.evalAll_neverReading h.2).bind fun _ _ => trivial

/-- The error of a command without an operand is that of an empty one. -/
theorem Command.eval_neverReading {command : List Operand} (hn : command ≠ [])
    (h : Command.allWellFormed (fun _ => true) command = true) (piped : Option Json) :
    NeverReading (Command.eval root piped command) := by
  match command with
  | [] => exact absurd rfl hn
  | head :: rest =>
    rw [Command.allWellFormed, Bool.and_eq_true] at h
    by_cases hf : ∀ f, head ≠ .function f
    · rw [Command.eval_operand hf]
      split
      · exact Operand.eval_neverReading h.1
      · rfl
    · obtain ⟨builtin, rfl⟩ := not_forall_not.1 hf
      rw [Command.eval_function]
      exact (Operand.evalAll_neverReading h.2).bind fun _ _ => builtin.call_neverReading _

theorem Pipeline.eval_neverReading {commands : List (List Operand)}
    (h : Pipeline.allWellFormed (fun _ => true) commands = true) (piped : Option Json) :
    NeverReading (Pipeline.eval root piped commands) := by
  match commands with
  | [] => trivial
  | command :: rest =>
    rw [Pipeline.allWellFormed, Bool.and_eq_true, Bool.and_eq_true] at h
    exact (Command.eval_neverReading (by simpa using h.1.1) h.1.2 piped).bind fun value _ =>
      Pipeline.eval_neverReading h.2 (some value)

end

theorem FirstFailure.not_isReading {nodes : List Node} {e : TemplateError}
    (complete : ∀ node ∈ nodes, node.Complete) (h : FirstFailure root nodes e) : e.isReading = false := by
  obtain ⟨before, node, behind, rfl, -, pipeline, rfl, failed⟩ := h
  have whole := complete (.action pipeline) (by simp)
  exact (Pipeline.eval_neverReading whole.filled none).error failed

end

/-! ## Expansion -/

/-- A source and a selector that can be read name no unknown function and have no empty command, nor has
the template that is made of them, which never fails with an error of reading when it is rendered. What
cannot be read fails with one, never for a chain, and so does its expansion against every value. -/
theorem errors_by_stage :
    (∀ source selector t scope, Template.parse source = .ok t → readSelector selector = .ok scope →
      (∀ cut tokens start, segments source.toList = .ok cut → .action tokens start ∈ cut →
        NamesFunctions (tokens.map (·.token))) ∧
      (∀ tokens, tokensOfExpression (groupDelimiters selector.toList) = .ok tokens →
        NamesFunctions (tokens.map (·.token))) ∧
      ∃ led, t.scoped selector = .ok led ∧ (∀ node ∈ t.nodes ++ led.nodes, node.Complete) ∧
        ∀ root e, renderAll root led.nodes = .error e → e.isReading = false) ∧
    (∀ source path pos, Template.parse source ≠ .error (.unexpected (.token (.chain path)) pos) ∧
      readSelector source ≠ .error (.unexpected (.token (.chain path)) pos)) ∧
    ∀ source selector e, (Template.parseIn source selector = .error e → e.isReading = true) ∧
      (e.isReading = true →
        (∀ root, Template.tryExpand source root selector = .error e ↔
          Template.parseIn source selector = .error e) ∧
        ∀ root root', Template.tryExpand source root selector = .error e ↔
          Template.tryExpand source root' selector = .error e) := by
  refine ⟨?_, ?_, ?_⟩
  · intro source selector t scope ht hs
    have complete := complete_of_parse ht
    have through : t.scoped selector = .ok ⟨t.nodes.map (Node.redirect scope)⟩ :=
      bind_eq_ok.2 ⟨scope, hs, rfl⟩
    have led := complete_of_scoped complete through
    refine ⟨fun _ _ _ hc hm => namesFunctions_of_parse ht hc hm,
      fun _ hc => namesFunctions_of_readSelector hs hc, _, through,
      List.forall_mem_append.2 ⟨complete, led⟩, fun root e failed => ?_⟩
    exact (renderAll_eq_error_iff.1 failed).not_isReading led
  · intro source path pos
    exact ⟨fun h => (readingError_of_parse h).2 path pos rfl,
      fun h => (readingError_of_readSelector h).2 path pos rfl⟩
  · intro source selector e
    refine ⟨fun failed => (readingError_of_parseIn failed).1, fun reading => ?_⟩
    have strict (root : Json) : Template.tryExpand source root selector = .error e ↔
        Template.parseIn source selector = .error e := by
      constructor
      · intro failed
        obtain h | ⟨t, ht, h⟩ := bind_eq_error.1 failed
        · exact h
        · have late := (renderAll_eq_error_iff.1 h).not_isReading (complete_of_parseIn ht)
          exact absurd reading (by simp [late])
      · exact fun failed => bind_eq_error.2 (.inl failed)
    exact ⟨strict, fun root root' => (strict root).trans (strict root').symm⟩

/-- A path through a selector, alone and in front of a function that there is not. -/
theorem errors_by_stage_upper :
    let selector := "\x7b\x7bindex .Apps 0\x7d\x7d"
    let led : Template := ⟨[.action [[.function .print,
      .chain (.group [[.function .index, .field ["Apps"], .int 0]]) ["Name"]]]]⟩
    ((∀ node ∈ led.nodes, node.Complete) ∧
      ∀ root e, renderAll root led.nodes = .error e → e.isReading = false) ∧
    ∀ root, Template.tryExpand "\x7b\x7bprint .App.Name | upper\x7d\x7d" root selector =
      .error (.unknownFunction "upper") := by
  have parsed : Template.parse "\x7b\x7bprint .App.Name\x7d\x7d" =
      .ok ⟨[.action [[.function .print, .field ["App", "Name"]]]]⟩ := by
    rfl
  have selected : readSelector "\x7b\x7bindex .Apps 0\x7d\x7d" =
      .ok (.group [[.function .index, .field ["Apps"], .int 0]]) := by
    rfl
  have unknown : Template.parseIn "\x7b\x7bprint .App.Name | upper\x7d\x7d"
      "\x7b\x7bindex .Apps 0\x7d\x7d" = .error (.unknownFunction "upper") := by
    rfl
  obtain ⟨scopes, -, stages⟩ := errors_by_stage
  obtain ⟨-, -, led, hs, complete, late⟩ := scopes _ _ _ _ parsed selected
  rw [Template.scoped, selected] at hs
  cases hs
  refine ⟨⟨fun node hm => complete node (List.mem_append_right _ hm), late⟩, fun root => ?_⟩
  exact (((stages _ _ _).2 rfl).1 root).2 unknown

end Template

end Rollout
