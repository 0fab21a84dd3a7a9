import Rollout.Proofs.Template.Reading

/-!
# Operands in a template

Every operand of a template that was read goes back to a token that was scanned. A test of operands
that no such token passes is passed nowhere in the template, at whatever depth.
-/

namespace Rollout.Template

/-! ## Operands inside a pipeline -/

mutual

/-- Whether an operand passes a test, or leads to one that does. -/
def Operand.mentions (p : Operand → Bool) : Operand → Bool
  | .chain base _ => base.mentions p
  | .group commands => Pipeline.mentions p commands
  | operand => p operand

def Command.mentions (p : Operand → Bool) : List Operand → Bool
  | [] => false
  | operand :: rest => operand.mentions p || Command.mentions p rest

def Pipeline.mentions (p : Operand → Bool) : List (List Operand) → Bool
  | [] => false
  | command :: rest => Command.mentions p command || Pipeline.mentions p rest

end

def Node.mentions (p : Operand → Bool) : Node → Bool
  | .text _ => false
  | .action pipeline => Pipeline.mentions p pipeline

theorem Command.mentions_append (p : Operand → Bool) (c d : Command) :
    Command.mentions p (c ++ d) = (Command.mentions p c || Command.mentions p d) := by
  induction c with
  | nil => rfl
  | cons operand c ih => rw [List.cons_append, Command.mentions, ih, Command.mentions, Bool.or_assoc]

theorem Pipeline.mentions_append (p : Operand → Bool) (c d : Pipeline) :
    Pipeline.mentions p (c ++ d) = (Pipeline.mentions p c || Pipeline.mentions p d) := by
  induction c with
  | nil => rfl
  | cons command c ih =>
    rw [List.cons_append, Pipeline.mentions, ih, Pipeline.mentions, Bool.or_assoc]

/-! ## Drafts -/

section

variable {p : Operand → Bool}

def Draft.mentions (p : Operand → Bool) (d : Draft) : Bool :=
  Pipeline.mentions p d.commands || Command.mentions p d.command

theorem Draft.mentions_push {d : Draft} {term : Operand} (hd : d.mentions p = false)
    (ht : term.mentions p = false) : (d.push term).mentions p = false := by
  have hc : (d.push term).command = d.command ++ [term] := rfl
  rw [Draft.mentions, Bool.or_eq_false_iff] at hd
  rw [Draft.mentions, hc, Command.mentions_append, hd.2]
  simp [Draft.push, Command.mentions, hd.1, ht]

theorem Draft.mentions_glue {d d' : Draft} {path : List String} (hd : d.mentions p = false)
    (hg : d.glue? path = some d') : d'.mentions p = false := by
  obtain ⟨term, ht, rfl⟩ := Option.map_eq_some_iff.1 hg
  simp only [Draft.mentions, Draft.command, ht, Option.toList_some, Option.toList_none,
    List.append_nil, Command.mentions_append, Command.mentions, Operand.mentions] at hd ⊢
  exact hd

theorem Draft.mentions_close {d : Draft} {pipeline : Pipeline} (hd : d.mentions p = false)
    (hc : d.close? = some pipeline) : Pipeline.mentions p pipeline = false := by
  rw [Draft.close?] at hc
  split at hc
  · cases hc
  · cases hc
    rw [Pipeline.mentions_append, Pipeline.mentions, Pipeline.mentions, Bool.or_false]
    exact hd

/-! ## Pipelines -/

/-- The operand that a token is by itself. -/
def Token.operand? : Token → Option Operand
  | .dot => some .dot
  | .field path => some (.field path)
  | .int value => some (.int value)
  | .text value => some (.text value)
  | .truth value => some (.truth value)
  | .nothing => some .nothing
  | .ident name => (Builtin.ofName? name).map .function
  | _ => none

theorem readFrom_mentions {last : Nat} {draft : Draft} {groups : List (Draft × Nat)}
    {tokens : List Located} {pipeline : Pipeline}
    (h : readFrom last draft groups tokens = .ok pipeline) (hd : draft.mentions p = false)
    (hg : ∀ g ∈ groups, g.1.mentions p = false)
    (ht : ∀ l ∈ tokens, ∀ operand, l.token.operand? = some operand → operand.mentions p = false) :
    Pipeline.mentions p pipeline = false := by
  induction tokens generalizing draft groups with
  | nil =>
    unfold readFrom at h
    split at h
    · cases h
    · rename_i hc
      cases h
      exact Draft.mentions_close hd hc
    · cases h
  | cons l rest ih =>
    obtain ⟨token, pos⟩ := l
    have hl := ht _ List.mem_cons_self
    have hr : ∀ l ∈ rest, ∀ operand, l.token.operand? = some operand → operand.mentions p = false :=
      fun l hm => ht l (List.mem_cons_of_mem _ hm)
    cases token with
    | dot | field | int | text | truth | nothing =>
      exact ih h (Draft.mentions_push hd (hl _ rfl)) hg hr
    | ident name =>
      simp only [readFrom] at h
      split at h
      · rename_i hb
        exact ih h (Draft.mentions_push hd (hl _ (by simp [Token.operand?, hb]))) hg hr
      · cases h
    | chain path =>
      simp only [readFrom] at h
      split at h
      · rename_i hp
        exact ih h (Draft.mentions_glue hd hp) hg hr
      · cases h
    | openGroup =>
      refine ih h rfl ?_ hr
      intro g hm
      rcases List.mem_cons.1 hm with rfl | hm
      · exact hd
      · exact hg g hm
    | closeGroup =>
      simp only [readFrom] at h
      split at h
      · cases h
      · cases h
      · rename_i hc
        have ho := hg _ List.mem_cons_self
        have hp : (Operand.group _).mentions p = false := Draft.mentions_close hd hc
        exact ih h (Draft.mentions_push ho hp) (fun g hm => hg g (List.mem_cons_of_mem _ hm)) hr
    | pipe =>
      simp only [readFrom] at h
      split at h
      · cases h
      · rename_i hc
        refine ih h ?_ hg hr
        rw [Draft.mentions, Draft.mentions_close hd hc]
        rfl

/-! ## Tokens -/

/-- The tokens that a scan can find somewhere. -/
def Scanned (token : Token) : Prop :=
  ∃ glued s rest, scanToken 0 glued s = .ok (token, rest)

theorem Tokenized.scanned {glued : Bool} {s : List Char} {tokens : List Token}
    {closing : Option Closing} (h : Tokenized glued s tokens closing) :
    ∀ token ∈ tokens, Scanned token := by
  induction h with
  | nil | trim | close => exact fun _ hm => absurd hm List.not_mem_nil
  | blank _ _ _ ih => exact ih
  | token _ _ hs _ ih =>
    intro token hm
    rcases List.mem_cons.1 hm with rfl | hm
    · exact ⟨_, _, _, hs⟩
    · exact ih token hm

theorem scanInt_token {pos : Nat} {negative : Bool} {s rest : List Char} {token : Token}
    (h : scanInt pos negative s = .ok (token, rest)) : ∃ value, token = .int value := by
  unfold scanInt at h
  simp only at h
  split at h
  · cases h
  · split at h
    · cases h
      exact ⟨_, rfl⟩
    · cases h

/-- The path of a token, right behind a closing parenthesis or not. -/
def Token.path? : Token → Option (List String)
  | .field path | .chain path => some path
  | _ => none

theorem wordToken_cases (word : String) :
    (∃ b, wordToken word = .truth b) ∨ wordToken word = .nothing ∨ wordToken word = .ident word := by
  unfold wordToken
  split
  · exact .inl ⟨true, rfl⟩
  · split
    · exact .inl ⟨false, rfl⟩
    · split
      · exact .inr (.inl rfl)
      · exact .inr (.inr rfl)

theorem wordToken_path? (word : String) : (wordToken word).path? = none := by
  obtain ⟨b, h⟩ | h | h := wordToken_cases word <;> rw [h] <;> rfl

/-- Only a scan of a path finds a token with a path. -/
theorem scanToken_path {pos : Nat} {glued : Bool} {s rest : List Char} {token : Token}
    {path : List String} (h : scanToken pos glued s = .ok (token, rest)) (hp : token.path? = some path) :
    path ≠ [] ∧ scanPath s = (path, rest) ∧ token = if glued then .chain path else .field path := by
  unfold scanToken at h
  split at h
  · cases h
  · cases h
    cases hp
  · cases h
    cases hp
  · cases h
    cases hp
  · split at h <;> cases h
    cases hp
  · split at h <;> cases h
    cases hp
  · obtain ⟨value, rfl⟩ := scanInt_token h
    cases hp
  · split at h
    · cases h
      cases hp
    · rename_i hne hs
      cases h
      obtain rfl : _ = path := by
        split at hp <;> exact Option.some.inj hp
      exact ⟨fun he => hne he, hs, rfl⟩
  · split at h
    · obtain ⟨value, rfl⟩ := scanInt_token h
      cases hp
    · split at h
      · cases h
        rw [wordToken_path?] at hp
        cases hp
      · cases h

/-- Whether no token that a scan can find is an operand that passes a test. -/
def Unscanned (p : Operand → Bool) : Prop :=
  ∀ token operand, Scanned token → token.operand? = some operand → operand.mentions p = false

theorem TokensRead.mentions {tokens : List Token} {pipeline : Pipeline}
    (h : TokensRead tokens pipeline) (hp : Unscanned p) (hs : ∀ token ∈ tokens, Scanned token) :
    Pipeline.mentions p pipeline = false := by
  refine readFrom_mentions h rfl (fun _ hm => absurd hm List.not_mem_nil) ?_
  intro l hm operand ho
  obtain ⟨token, ht, rfl⟩ := List.mem_map.1 hm
  exact hp token operand (hs token ht) ho

theorem SourceRead.mentions {trims : Bool} {s : List Char} {nodes : List Node}
    (h : SourceRead trims s nodes) (hp : Unscanned p) : ∀ node ∈ nodes, node.mentions p = false := by
  intro node hm
  cases node with
  | text value => rfl
  | action pipeline =>
    obtain ⟨_, _, _, ht, hr⟩ := h.exists_read hm
    exact hr.mentions hp ht.scanned

end

end Rollout.Template
