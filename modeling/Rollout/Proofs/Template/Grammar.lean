import Mathlib.Data.List.Chain
import Rollout.Proofs.Template.Mention

/-!
# The grammar of actions

A pipeline is written in one row of tokens: the operands of a command one behind the other, a pipe
between two commands, a group in its parentheses, a path behind the operand that it is glued to.
Reading accepts these rows and no others, and gives back what was written (`readPipeline_grammar`).
-/

namespace Rollout.Template

/-! ## Written pipelines -/

mutual

def Operand.tokens : Operand → List Token
  | .dot => [.dot]
  | .field path => [.field path]
  | .chain base path => base.tokens ++ [.chain path]
  | .group commands => .openGroup :: (Pipeline.tokens commands ++ [.closeGroup])
  | .function builtin => [.ident builtin.name]
  | .int value => [.int value]
  | .text value => [.text value]
  | .truth value => [.truth value]
  | .nothing => [.nothing]

def Command.tokens : List Operand → List Token
  | [] => []
  | operand :: rest => operand.tokens ++ Command.tokens rest

def Pipeline.tokens : List (List Operand) → List Token
  | [] => []
  | [command] => Command.tokens command
  | command :: next :: rest => Command.tokens command ++ .pipe :: Pipeline.tokens (next :: rest)

end

def Operand.isChain : Operand → Bool
  | .chain _ _ => true
  | _ => false

mutual

/-- Whether no group in an operand is empty or has an empty command, and every path is glued to an
operand that takes one. -/
def Operand.wellFormed (takes : Operand → Bool) : Operand → Bool
  | .chain base _ => takes base && base.wellFormed takes
  | .group commands => !commands.isEmpty && Pipeline.allWellFormed takes commands
  | _ => true

def Command.allWellFormed (takes : Operand → Bool) : List Operand → Bool
  | [] => true
  | operand :: rest => operand.wellFormed takes && Command.allWellFormed takes rest

def Pipeline.allWellFormed (takes : Operand → Bool) : List (List Operand) → Bool
  | [] => true
  | command :: rest =>
    !command.isEmpty && Command.allWellFormed takes command && Pipeline.allWellFormed takes rest

end

/-- Whether a pipeline has a command and each command an operand, at every depth, and no path is glued
to a path. -/
def Pipeline.wellFormed (pipeline : Pipeline) : Bool :=
  !pipeline.isEmpty && Pipeline.allWellFormed (!·.isChain) pipeline

section

variable {takes : Operand → Bool}

theorem Command.tokens_append (front back : Command) :
    Command.tokens (front ++ back) = Command.tokens front ++ Command.tokens back := by
  induction front with
  | nil => rfl
  | cons operand rest ih =>
    rw [List.cons_append, Command.tokens, ih, Command.tokens, List.append_assoc]

theorem Command.allWellFormed_append (front back : Command) :
    Command.allWellFormed takes (front ++ back) =
      (Command.allWellFormed takes front && Command.allWellFormed takes back) := by
  induction front with
  | nil => rfl
  | cons operand rest ih =>
    rw [List.cons_append, Command.allWellFormed, ih, Command.allWellFormed, Bool.and_assoc]

theorem Pipeline.allWellFormed_append (front back : Pipeline) :
    Pipeline.allWellFormed takes (front ++ back) =
      (Pipeline.allWellFormed takes front && Pipeline.allWellFormed takes back) := by
  induction front with
  | nil => rfl
  | cons command rest ih =>
    rw [List.cons_append, Pipeline.allWellFormed, ih, Pipeline.allWellFormed, Bool.and_assoc,
      Bool.and_assoc, Bool.and_assoc]

/-- Commands with a pipe behind each. -/
def Pipeline.pipedTokens (commands : Pipeline) : List Token :=
  commands.flatMap fun command => Command.tokens command ++ [.pipe]

theorem Pipeline.tokens_append (front : Pipeline) (command : Command) :
    Pipeline.tokens (front ++ [command]) =
      Pipeline.pipedTokens front ++ Command.tokens command := by
  induction front with
  | nil => rfl
  | cons first rest ih =>
    obtain ⟨next, more, hn⟩ := List.exists_cons_of_ne_nil (List.append_ne_nil_of_right_ne_nil rest
      (List.cons_ne_nil command []))
    rw [List.cons_append, hn, Pipeline.tokens, ← hn, ih]
    simp [Pipeline.pipedTokens]

end

/-! ## Drafts -/

def Draft.tokens (d : Draft) : List Token :=
  Pipeline.pipedTokens d.commands ++ Command.tokens d.command

/-- What is written of the drafts that stand around an open group. -/
def openTokens : List (Draft × Nat) → List Token
  | [] => []
  | (outer, _) :: groups => openTokens groups ++ outer.tokens ++ [.openGroup]

structure Draft.WellFormed (d : Draft) : Prop where
  commands : Pipeline.allWellFormed (!·.isChain) d.commands = true
  command : Command.allWellFormed (!·.isChain) d.command = true
  term : ∀ operand ∈ d.term, operand.isChain = false

section

variable {d d' : Draft} {term : Operand} {path : List String} {pipeline : Pipeline}

theorem Draft.WellFormed.of_commands {commands : Pipeline} {operands : Command}
    (hs : Pipeline.allWellFormed (!·.isChain) commands = true)
    (hc : Command.allWellFormed (!·.isChain) operands = true) :
    (Draft.mk commands operands none).WellFormed :=
  ⟨hs, by simpa [Draft.command] using hc, fun _ ht => absurd ht (Option.not_mem_none _)⟩

theorem Draft.wellFormed_empty : Draft.empty.WellFormed :=
  .of_commands rfl rfl

theorem Draft.command_push (d : Draft) (term : Operand) :
    (d.push term).command = d.command ++ [term] :=
  rfl

theorem Draft.tokens_push (d : Draft) (term : Operand) :
    (d.push term).tokens = d.tokens ++ term.tokens := by
  rw [Draft.tokens, command_push, Command.tokens_append, ← List.append_assoc, Command.tokens,
    Command.tokens, List.append_nil]
  rfl

theorem Draft.WellFormed.push (h : d.WellFormed) (ht : term.wellFormed (!·.isChain) = true)
    (hc : term.isChain = false) : (d.push term).WellFormed := by
  refine ⟨h.commands, ?_, ?_⟩
  · rw [command_push, Command.allWellFormed_append, h.command]
    simp [Command.allWellFormed, ht]
  · rintro operand ⟨⟩
    exact hc

theorem Draft.tokens_glue? (hg : d.glue? path = some d') : d'.tokens = d.tokens ++ [.chain path] := by
  obtain ⟨term, ht, rfl⟩ := Option.map_eq_some_iff.1 hg
  simp [Draft.tokens, Draft.command, ht, Command.tokens_append, Command.tokens, Operand.tokens]

theorem Draft.WellFormed.glue? (h : d.WellFormed) (hg : d.glue? path = some d') :
    d'.WellFormed := by
  obtain ⟨term, ht, rfl⟩ := Option.map_eq_some_iff.1 hg
  have hc := h.command
  rw [Draft.command, ht, Command.allWellFormed_append] at hc
  refine .of_commands h.commands ?_
  simpa [Command.allWellFormed_append, Command.allWellFormed, Operand.wellFormed, h.term term ht]
    using hc

theorem Draft.close?_eq_some (hc : d.close? = some pipeline) :
    d.command ≠ [] ∧ pipeline = d.commands ++ [d.command] := by
  rw [Draft.close?] at hc
  split at hc
  · cases hc
  · rename_i he
    cases hc
    exact ⟨fun h => he (List.isEmpty_iff.2 h), rfl⟩

theorem Draft.tokens_close? (hc : d.close? = some pipeline) : Pipeline.tokens pipeline = d.tokens := by
  obtain ⟨-, rfl⟩ := Draft.close?_eq_some hc
  exact Pipeline.tokens_append _ _

theorem Draft.WellFormed.close? (h : d.WellFormed) (hc : d.close? = some pipeline) :
    pipeline.wellFormed = true := by
  obtain ⟨hn, rfl⟩ := Draft.close?_eq_some hc
  simp [Pipeline.wellFormed, Pipeline.allWellFormed_append, Pipeline.allWellFormed, h.commands,
    h.command, hn]

theorem Draft.tokens_next (hc : d.close? = some pipeline) :
    (Draft.mk pipeline [] none).tokens = d.tokens ++ [.pipe] := by
  obtain ⟨-, rfl⟩ := Draft.close?_eq_some hc
  simp [Draft.tokens, Draft.command, Pipeline.pipedTokens, Command.tokens]

theorem Draft.WellFormed.next (h : d.WellFormed) (hc : d.close? = some pipeline) :
    (Draft.mk pipeline [] none).WellFormed := by
  have hp := h.close? hc
  rw [Pipeline.wellFormed, Bool.and_eq_true] at hp
  exact .of_commands hp.2 rfl

end

/-! ## What is read was written -/

theorem readFrom_sound {last : Nat} {draft : Draft} {groups : List (Draft × Nat)}
    {located : List Located} {pipeline : Pipeline}
    (h : readFrom last draft groups located = .ok pipeline) (hd : draft.WellFormed)
    (hg : ∀ g ∈ groups, g.1.WellFormed) :
    openTokens groups ++ draft.tokens ++ located.map (·.token) = Pipeline.tokens pipeline ∧
      pipeline.wellFormed = true := by
  induction located generalizing draft groups with
  | nil =>
    unfold readFrom at h
    split at h
    · cases h
    · rename_i hc
      cases h
      exact ⟨by rw [Draft.tokens_close? hc, openTokens, List.nil_append, List.map_nil, List.append_nil],
        hd.close? hc⟩
    · cases h
  | cons l rest ih =>
    obtain ⟨token, pos⟩ := l
    -- A token that adds to the draft is read in the draft behind it.
    have grow {next : Draft} (hn : readFrom last next groups rest = .ok pipeline)
        (hw : next.WellFormed) (ht : next.tokens = draft.tokens ++ [token]) :
        openTokens groups ++ draft.tokens ++ token :: rest.map (·.token) = Pipeline.tokens pipeline ∧
          pipeline.wellFormed = true := by
      obtain ⟨hp, hf⟩ := ih hn hw hg
      exact ⟨by rw [← hp, ht]; simp, hf⟩
    cases token with
    | dot | field | int | text | truth | nothing =>
      exact grow h (hd.push rfl rfl) (Draft.tokens_push _ _)
    | ident name =>
      simp only [readFrom] at h
      split at h
      · rename_i builtin hb
        obtain rfl := Builtin.ofName?_eq_some_iff.1 hb
        exact grow h (hd.push rfl rfl) (Draft.tokens_push _ _)
      · cases h
    | chain path =>
      simp only [readFrom] at h
      split at h
      · rename_i hn
        exact grow h (hd.glue? hn) (Draft.tokens_glue? hn)
      · cases h
    | openGroup =>
      obtain ⟨hp, hf⟩ := ih h Draft.wellFormed_empty (List.forall_mem_cons.2 ⟨hd, hg⟩)
      refine ⟨?_, hf⟩
      rw [← hp, openTokens]
      simp [Draft.tokens, Draft.empty, Draft.command, Pipeline.pipedTokens, Command.tokens]
    | closeGroup =>
      simp only [readFrom] at h
      split at h
      · cases h
      · cases h
      · rename_i inner outer pos groups hc
        obtain ⟨ho, hg⟩ := List.forall_mem_cons.1 hg
        obtain ⟨hp, hf⟩ := ih h (ho.push (hd.close? hc) rfl) hg
        refine ⟨?_, hf⟩
        rw [← hp, openTokens, Draft.tokens_push, Operand.tokens, Draft.tokens_close? hc]
        simp
    | pipe =>
      simp only [readFrom] at h
      split at h
      · cases h
      · rename_i hc
        exact grow h (hd.next hc) (Draft.tokens_next hc)

/-! ## What is written is read -/

/-- A draft with one more operand, to which a path may be glued unless it is a chain. -/
def Draft.add (d : Draft) (operand : Operand) : Draft :=
  if operand.isChain then { d with operands := d.command ++ [operand], term := none }
  else d.push operand

theorem Draft.command_foldl_add (c : Command) (d : Draft) :
    (c.foldl Draft.add d).command = d.command ++ c ∧ (c.foldl Draft.add d).commands = d.commands := by
  induction c generalizing d with
  | nil => exact ⟨(List.append_nil _).symm, rfl⟩
  | cons operand c ih =>
    have ha : (d.add operand).command = d.command ++ [operand] ∧
        (d.add operand).commands = d.commands := by
      unfold Draft.add
      split
      · exact ⟨List.append_nil _, rfl⟩
      · exact ⟨rfl, rfl⟩
    obtain ⟨hc, hs⟩ := ih (d.add operand)
    rw [List.foldl_cons, hc, hs, ha.1, ha.2, List.append_assoc]
    exact ⟨rfl, rfl⟩

-- No position is read unless there is an error, so that written tokens may all stand at one. The rest
-- of the row is general: it holds the parentheses and the pipes behind what is read.

mutual

theorem readFrom_operand {operand : Operand} (h : operand.wellFormed (!·.isChain) = true) (last : Nat)
    (draft : Draft) (groups : List (Draft × Nat)) (rest : List Located) :
    readFrom last draft groups (operand.tokens.map (⟨·, 0⟩) ++ rest) =
      readFrom last (draft.add operand) groups rest := by
  match operand with
  | .dot | .field _ | .int _ | .text _ | .truth _ | .nothing => rfl
  | .function builtin =>
    have hb : Builtin.ofName? builtin.name = some builtin := Builtin.ofName?_eq_some_iff.2 rfl
    simp only [Operand.tokens, List.map_cons, List.map_nil, List.cons_append, List.nil_append, readFrom,
      hb]
    rfl
  | .chain base path =>
    rw [Operand.wellFormed, Bool.and_eq_true, Bool.not_eq_true'] at h
    have hb := readFrom_operand h.2 last draft groups (⟨.chain path, 0⟩ :: rest)
    have hp : draft.add base = draft.push base := by rw [Draft.add, h.1]; rfl
    rw [Operand.tokens, List.map_append, List.append_assoc]
    exact hb.trans (by rw [hp]; rfl)
  | .group commands =>
    rw [Operand.wellFormed, Bool.and_eq_true] at h
    obtain ⟨inner, hc, hi⟩ :=
      readFrom_commands (by simpa using h.1) h.2 last .empty rfl ((draft, 0) :: groups)
    have hg := hi (⟨.closeGroup, 0⟩ :: rest)
    rw [Operand.tokens, List.map_cons, List.map_append, List.cons_append, List.append_assoc]
    simp only [readFrom]
    refine hg.trans ?_
    simp only [readFrom, hc]
    rfl

theorem readFrom_command {command : Command}
    (h : Command.allWellFormed (!·.isChain) command = true) (last : Nat) (draft : Draft)
    (groups : List (Draft × Nat)) (rest : List Located) :
    readFrom last draft groups ((Command.tokens command).map (⟨·, 0⟩) ++ rest) =
      readFrom last (command.foldl Draft.add draft) groups rest := by
  match command with
  | [] => rfl
  | operand :: more =>
    rw [Command.allWellFormed, Bool.and_eq_true] at h
    rw [Command.tokens, List.map_append, List.append_assoc, readFrom_operand h.1,
      readFrom_command h.2, List.foldl_cons]

theorem readFrom_commands {commands : Pipeline} (hn : commands ≠ [])
    (h : Pipeline.allWellFormed (!·.isChain) commands = true) (last : Nat) (draft : Draft)
    (hd : draft.command = []) (groups : List (Draft × Nat)) :
    ∃ draft' : Draft, draft'.close? = some (draft.commands ++ commands) ∧ ∀ rest,
      readFrom last draft groups ((Pipeline.tokens commands).map (⟨·, 0⟩) ++ rest) =
        readFrom last draft' groups rest := by
  match commands with
  | [] => exact absurd rfl hn
  | command :: more =>
    rw [Pipeline.allWellFormed, Bool.and_eq_true, Bool.and_eq_true] at h
    obtain ⟨⟨hne, hc⟩, hm⟩ := h
    obtain ⟨hcommand, hcommands⟩ := Draft.command_foldl_add command draft
    have closed : (command.foldl Draft.add draft).close? = some (draft.commands ++ [command]) := by
      rw [Draft.close?, hcommand, hcommands, hd, List.nil_append, if_neg (by simpa using hne)]
    match more with
    | [] => exact ⟨_, closed, fun rest => readFrom_command hc last draft groups rest⟩
    | next :: more =>
      obtain ⟨draft', hc', hr⟩ := readFrom_commands (List.cons_ne_nil next more) hm last
        ⟨draft.commands ++ [command], [], none⟩ rfl groups
      refine ⟨draft', by rw [hc', List.append_assoc]; rfl, fun rest => ?_⟩
      rw [Pipeline.tokens, List.map_append, List.append_assoc, readFrom_command hc, List.map_cons,
        List.cons_append]
      simp only [readFrom, closed]
      exact hr rest

end

theorem tokensRead_iff {tokens : List Token} {pipeline : Pipeline} :
    TokensRead tokens pipeline ↔ tokens = Pipeline.tokens pipeline ∧ pipeline.wellFormed = true := by
  constructor
  · intro h
    obtain ⟨ht, hw⟩ := readFrom_sound h Draft.wellFormed_empty fun _ hm => absurd hm List.not_mem_nil
    rw [List.map_map] at ht
    exact ⟨(List.map_id tokens).symm.trans ht, hw⟩
  · rintro ⟨rfl, hw⟩
    rw [Pipeline.wellFormed, Bool.and_eq_true] at hw
    obtain ⟨draft, hc, hr⟩ := readFrom_commands (by simpa using hw.1) hw.2
      ((((Pipeline.tokens pipeline).map (⟨·, 0⟩ : Token → Located)).getLast?.map (·.pos)).getD 0)
      .empty rfl []
    have h := hr []
    rw [List.append_nil] at h
    refine h.trans ?_
    unfold readFrom
    rw [hc]
    rfl

/-! ## What is never written -/

/-- How many groups are open behind a row of tokens, none if one closes that was not open. -/
def openGroups? : (depth : Nat) → List Token → Option Nat
  | depth, [] => some depth
  | depth, .openGroup :: rest => openGroups? (depth + 1) rest
  | depth + 1, .closeGroup :: rest => openGroups? depth rest
  | 0, .closeGroup :: _ => none
  | depth, _ :: rest => openGroups? depth rest

mutual

theorem openGroups?_operand (operand : Operand) (depth : Nat) (rest : List Token) :
    openGroups? depth (operand.tokens ++ rest) = openGroups? depth rest := by
  match operand with
  | .dot | .field _ | .function _ | .int _ | .text _ | .truth _ | .nothing => rfl
  | .chain base path =>
    rw [Operand.tokens, List.append_assoc, openGroups?_operand base]
    rfl
  | .group commands =>
    rw [Operand.tokens, List.cons_append, List.append_assoc, openGroups?, openGroups?_commands commands]
    rfl

theorem openGroups?_command (command : List Operand) (depth : Nat) (rest : List Token) :
    openGroups? depth (Command.tokens command ++ rest) = openGroups? depth rest := by
  match command with
  | [] => rfl
  | operand :: more =>
    rw [Command.tokens, List.append_assoc, openGroups?_operand operand, openGroups?_command more]

theorem openGroups?_commands (commands : List (List Operand)) (depth : Nat) (rest : List Token) :
    openGroups? depth (Pipeline.tokens commands ++ rest) = openGroups? depth rest := by
  match commands with
  | [] => rfl
  | [command] => exact openGroups?_command command depth rest
  | command :: next :: more =>
    rw [Pipeline.tokens, List.append_assoc, openGroups?_command command]
    exact openGroups?_commands (next :: more) depth rest

end

def Token.opensCommand : Token → Bool
  | .openGroup | .pipe => true
  | _ => false

def Token.closesCommand : Token → Bool
  | .closeGroup | .pipe => true
  | _ => false

def NoEmptyCommand (tokens : List Token) : Prop :=
  tokens.IsChain fun a b => ¬ (a.opensCommand = true ∧ b.closesCommand = true)

/-- Tokens without an empty command among them, at their start or at their end. -/
structure Filled (tokens : List Token) : Prop where
  inside : NoEmptyCommand tokens
  first : ∀ token ∈ tokens.head?, token.closesCommand = false
  last : ∀ token ∈ tokens.getLast?, token.opensCommand = false
  ne_nil : tokens ≠ []

theorem Filled.single {token : Token} (hc : token.closesCommand = false)
    (ho : token.opensCommand = false) : Filled [token] :=
  ⟨.singleton token, by rintro t ⟨⟩; exact hc, by rintro t ⟨⟩; exact ho, List.cons_ne_nil _ _⟩

theorem Filled.append {s t : List Token} (hs : Filled s) (ht : Filled t) : Filled (s ++ t) := by
  refine ⟨List.isChain_append.2 ⟨hs.inside, ht.inside, ?_⟩, ?_, ?_, by simp [hs.ne_nil]⟩
  · intro a ha b _ hab
    rw [hs.last a ha] at hab
    exact Bool.false_ne_true hab.1
  · rw [List.head?_append_of_ne_nil _ hs.ne_nil]
    exact hs.first
  · rw [List.getLast?_append_of_ne_nil _ ht.ne_nil]
    exact ht.last

theorem Filled.pipe {s t : List Token} (hs : Filled s) (ht : Filled t) : Filled (s ++ .pipe :: t) := by
  refine ⟨List.isChain_append.2 ⟨hs.inside, List.isChain_cons.2 ⟨?_, ht.inside⟩, ?_⟩, ?_, ?_, by simp⟩
  · intro b hb hab
    rw [ht.first b hb] at hab
    exact Bool.false_ne_true hab.2
  · intro a ha b _ hab
    rw [hs.last a ha] at hab
    exact Bool.false_ne_true hab.1
  · rw [List.head?_append_of_ne_nil _ hs.ne_nil]
    exact hs.first
  · rw [List.getLast?_append_of_ne_nil _ (List.cons_ne_nil _ _), List.getLast?_cons_of_ne_nil ht.ne_nil]
    exact ht.last

theorem Filled.grouped {s : List Token} (hs : Filled s) :
    Filled (.openGroup :: (s ++ [.closeGroup])) := by
  refine ⟨List.isChain_cons.2 ⟨?_, List.isChain_append.2 ⟨hs.inside, .singleton _, ?_⟩⟩, ?_, ?_,
    List.cons_ne_nil _ _⟩
  · rw [List.head?_append_of_ne_nil _ hs.ne_nil]
    intro b hb hab
    rw [hs.first b hb] at hab
    exact Bool.false_ne_true hab.2
  · intro a ha b _ hab
    rw [hs.last a ha] at hab
    exact Bool.false_ne_true hab.1
  · rintro t ⟨⟩
    rfl
  · rw [← List.cons_append, List.getLast?_concat]
    rintro t ⟨⟩
    rfl

mutual

theorem Operand.filled {takes : Operand → Bool} {operand : Operand}
    (h : operand.wellFormed takes = true) : Filled operand.tokens := by
  match operand with
  | .dot | .field _ | .function _ | .int _ | .text _ | .truth _ | .nothing => exact .single rfl rfl
  | .chain base path =>
    rw [Operand.wellFormed, Bool.and_eq_true] at h
    exact (Operand.filled h.2).append (.single rfl rfl)
  | .group commands =>
    rw [Operand.wellFormed, Bool.and_eq_true] at h
    exact (Pipeline.filled (by simpa using h.1) h.2).grouped

theorem Command.filled {takes : Operand → Bool} {command : List Operand} (hn : command ≠ [])
    (h : Command.allWellFormed takes command = true) : Filled (Command.tokens command) := by
  match command with
  | [] => exact absurd rfl hn
  | [operand] =>
    rw [Command.allWellFormed, Bool.and_eq_true] at h
    rw [Command.tokens, Command.tokens, List.append_nil]
    exact Operand.filled h.1
  | operand :: next :: rest =>
    rw [Command.allWellFormed, Bool.and_eq_true] at h
    exact (Operand.filled h.1).append (Command.filled (List.cons_ne_nil next rest) h.2)

theorem Pipeline.filled {takes : Operand → Bool} {commands : List (List Operand)} (hn : commands ≠ [])
    (h : Pipeline.allWellFormed takes commands = true) : Filled (Pipeline.tokens commands) := by
  match commands with
  | [] => exact absurd rfl hn
  | [command] =>
    rw [Pipeline.allWellFormed, Bool.and_eq_true, Bool.and_eq_true] at h
    exact Command.filled (by simpa using h.1.1) h.1.2
  | command :: next :: rest =>
    rw [Pipeline.allWellFormed, Bool.and_eq_true, Bool.and_eq_true] at h
    exact (Command.filled (by simpa using h.1.1) h.1.2).pipe
      (Pipeline.filled (List.cons_ne_nil next rest) h.2)

end

/-- The faults for which a row of tokens is no pipeline: parentheses that do not match, nothing between
two tokens that bound a command, and tokens behind the end of a pipeline, which only a parenthesis can
be before the tokens are. -/
inductive Faulty : List Token → Prop where
  | unbalanced {tokens} : openGroups? 0 tokens ≠ some 0 → Faulty tokens
  | emptyCommand {tokens front a b rest} :
      .openGroup :: (tokens ++ [.closeGroup]) = front ++ a :: b :: rest →
      a.opensCommand = true → b.closesCommand = true → Faulty tokens
  | leftover {pipeline : Pipeline} {rest} : pipeline.wellFormed = true →
      Faulty (Pipeline.tokens pipeline ++ .closeGroup :: rest)

theorem not_faulty {pipeline : Pipeline} (h : pipeline.wellFormed = true) :
    ¬ Faulty (Pipeline.tokens pipeline) := by
  have balanced : openGroups? 0 (Pipeline.tokens pipeline) = some 0 := by
    simpa [openGroups?] using openGroups?_commands pipeline 0 []
  have hw := h
  rw [Pipeline.wellFormed, Bool.and_eq_true] at hw
  have filled := (Pipeline.filled (by simpa using hw.1) hw.2).grouped
  intro hf
  generalize ht : Pipeline.tokens pipeline = tokens at hf balanced filled
  cases hf with
  | unbalanced hb => exact hb balanced
  | emptyCommand he ha hb =>
    exact List.isChain_iff_forall_rel_of_append_cons_cons.1 filled.inside he ⟨ha, hb⟩
  | @leftover front rest _ =>
    rw [openGroups?_commands] at balanced
    cases balanced

/-- Reading accepts what is written of a well-formed pipeline and nothing else. So no two rows of tokens
are read as the same pipeline, and a row with a fault as none. -/
theorem readPipeline_grammar :
    (∀ start located pipeline, readPipeline start located = .ok pipeline ↔
      located.map (·.token) = Pipeline.tokens pipeline ∧ pipeline.wellFormed = true) ∧
    (∀ start start' located located' pipeline, readPipeline start located = .ok pipeline →
      readPipeline start' located' = .ok pipeline →
        located.map (·.token) = located'.map (·.token)) ∧
    ∀ start located, Faulty (located.map (·.token)) → ∃ e, readPipeline start located = .error e := by
  have accepted {start : Nat} {located : List Located} {pipeline : Pipeline} :
      readPipeline start located = .ok pipeline ↔
        located.map (·.token) = Pipeline.tokens pipeline ∧ pipeline.wellFormed = true :=
    readPipeline_iff.trans tokensRead_iff
  refine ⟨fun _ _ _ => accepted, ?_, ?_⟩
  · intro start start' located located' pipeline h h'
    rw [(accepted.1 h).1, (accepted.1 h').1]
  · intro start located hf
    cases hr : readPipeline start located with
    | error e => exact ⟨e, rfl⟩
    | ok pipeline =>
      obtain ⟨ht, hw⟩ := accepted.1 hr
      rw [ht] at hf
      exact absurd hf (not_faulty hw)

end Rollout.Template
