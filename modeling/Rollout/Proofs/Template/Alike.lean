import Rollout.Proofs.Template.Mention

/-!
# Pipelines that differ in their literals

Two actions whose literals are related, one by one, are read alike: either both are a pipeline, and
these differ in the literals alone, or neither is (`TokensRead.alike`).
-/

namespace Rollout.Template

section

variable (r : String → String → Prop)

/-- Tokens that are the same, but for the texts they may be. -/
def Token.Alike : Token → Token → Prop
  | .text s, other => ∃ t, other = .text t ∧ r s t
  | token, other => token = other

mutual

/-- Operands that are the same but for the literals in them. -/
def Operand.Alike : Operand → Operand → Prop
  | .text s, other => ∃ t, other = .text t ∧ r s t
  | .chain base path, other => ∃ base', other = .chain base' path ∧ Operand.Alike base base'
  | .group commands, other => ∃ commands', other = .group commands' ∧ Pipeline.Alike commands commands'
  | operand, other => operand = other

def Command.Alike : List Operand → List Operand → Prop
  | [], other => other = []
  | operand :: rest, other => ∃ operand' rest', other = operand' :: rest' ∧
    Operand.Alike operand operand' ∧ Command.Alike rest rest'

def Pipeline.Alike : List (List Operand) → List (List Operand) → Prop
  | [], other => other = []
  | command :: rest, other => ∃ command' rest', other = command' :: rest' ∧
    Command.Alike command command' ∧ Pipeline.Alike rest rest'

end

end

variable {r : String → String → Prop}

theorem Token.Alike.closeGroup_iff {token token' : Token} (h : token.Alike r token') :
    decide (token = .closeGroup) = decide (token' = .closeGroup) := by
  cases token with
  | text s =>
    obtain ⟨t, rfl, -⟩ := h
    rfl
  | _ =>
    cases h
    rfl

theorem Command.Alike.append {c c' d d' : Command} (h : Command.Alike r c c')
    (hd : Command.Alike r d d') : Command.Alike r (c ++ d) (c' ++ d') := by
  induction c generalizing c' with
  | nil =>
    cases h
    exact hd
  | cons operand c ih =>
    obtain ⟨operand', rest', rfl, ho, hr⟩ := h
    exact ⟨operand', rest' ++ d', rfl, ho, ih hr⟩

theorem Pipeline.Alike.append {p p' q q' : Pipeline} (h : Pipeline.Alike r p p')
    (hq : Pipeline.Alike r q q') : Pipeline.Alike r (p ++ q) (p' ++ q') := by
  induction p generalizing p' with
  | nil =>
    cases h
    exact hq
  | cons command p ih =>
    obtain ⟨command', rest', rfl, hc, hr⟩ := h
    exact ⟨command', rest' ++ q', rfl, hc, ih hr⟩

theorem Command.Alike.isEmpty_eq {c c' : Command} (h : Command.Alike r c c') :
    c.isEmpty = c'.isEmpty := by
  cases c with
  | nil =>
    cases h
    rfl
  | cons operand rest =>
    obtain ⟨operand', rest', rfl, -, -⟩ := h
    rfl

/-! ## Drafts -/

structure Draft.Alike (r : String → String → Prop) (d d' : Draft) : Prop where
  commands : Pipeline.Alike r d.commands d'.commands
  operands : Command.Alike r d.operands d'.operands
  term : Command.Alike r d.term.toList d'.term.toList

theorem Draft.Alike.command {d d' : Draft} (h : d.Alike r d') : Command.Alike r d.command d'.command :=
  h.operands.append h.term

theorem Draft.Alike.empty : Draft.Alike r .empty .empty :=
  ⟨rfl, rfl, rfl⟩

theorem Draft.Alike.push {d d' : Draft} (h : d.Alike r d') {term term' : Operand}
    (ht : Operand.Alike r term term') : (d.push term).Alike r (d'.push term') :=
  ⟨h.commands, h.command, term', [], rfl, ht, rfl⟩

theorem Draft.Alike.glue? {d d' : Draft} (h : d.Alike r d') {path : List String} {glued : Draft}
    (hg : d.glue? path = some glued) :
    ∃ glued', d'.glue? path = some glued' ∧ glued.Alike r glued' := by
  obtain ⟨term, ht, rfl⟩ := Option.map_eq_some_iff.1 hg
  obtain ⟨term', ht', ho⟩ : ∃ term', d'.term = some term' ∧ Operand.Alike r term term' := by
    have hs := h.term
    rw [ht] at hs
    obtain ⟨term', rest', hs, ho, hr⟩ := hs
    cases hr
    exact ⟨term', Option.toList_eq_singleton_iff.1 hs, ho⟩
  have hc : Command.Alike r [.chain term path] [.chain term' path] :=
    ⟨_, [], rfl, ⟨term', rfl, ho⟩, rfl⟩
  exact ⟨{ d' with operands := d'.operands ++ [.chain term' path], term := none },
    by rw [Draft.glue?, ht', Option.map_some], h.commands, h.operands.append hc, rfl⟩

theorem Draft.Alike.close? {d d' : Draft} (h : d.Alike r d') {p : Pipeline} (hc : d.close? = some p) :
    ∃ p', d'.close? = some p' ∧ Pipeline.Alike r p p' := by
  unfold Draft.close? at hc ⊢
  rw [h.command.isEmpty_eq] at hc
  split at hc
  · cases hc
  · rename_i hn
    cases hc
    rw [if_neg hn]
    exact ⟨_, rfl, h.commands.append ⟨_, [], rfl, h.command, rfl⟩⟩

/-! ## Reading -/

theorem readFrom_alike {last last' : Nat} {draft draft' : Draft} {groups groups' : List (Draft × Nat)}
    {located located' : List Located} {pipeline : Pipeline}
    (h : readFrom last draft groups located = .ok pipeline) (hd : draft.Alike r draft')
    (hg : List.Forall₂ (fun g g' => g.1.Alike r g'.1) groups groups')
    (hl : List.Forall₂ (fun l l' => l.token.Alike r l'.token) located located') :
    ∃ pipeline', readFrom last' draft' groups' located' = .ok pipeline' ∧
      Pipeline.Alike r pipeline pipeline' := by
  induction hl generalizing draft draft' groups groups' with
  | nil =>
    unfold readFrom at h ⊢
    split at h
    · cases h
    · rename_i p hc
      cases h
      cases hg
      obtain ⟨p', hc', hp⟩ := hd.close? hc
      rw [hc']
      exact ⟨p', rfl, hp⟩
    · cases h
  | @cons l l' rest rest' ht _ ih =>
    obtain ⟨token, pos⟩ := l
    obtain ⟨token', pos'⟩ := l'
    cases token with
    | dot | field | int | truth | nothing =>
      cases ht
      exact ih h (hd.push rfl) hg
    | text s =>
      obtain ⟨t, rfl, hr⟩ := ht
      exact ih h (hd.push ⟨t, rfl, hr⟩) hg
    | ident name =>
      cases ht
      simp only [readFrom] at h ⊢
      split at h
      · exact ih h (hd.push rfl) hg
      · cases h
    | chain path =>
      cases ht
      simp only [readFrom] at h ⊢
      split at h
      · rename_i glued hp
        obtain ⟨glued', hp', hd'⟩ := hd.glue? hp
        rw [hp']
        exact ih h hd' hg
      · cases h
    | openGroup =>
      cases ht
      exact ih h .empty (.cons hd hg)
    | closeGroup =>
      cases ht
      simp only [readFrom] at h ⊢
      split at h
      · cases h
      · cases h
      · rename_i p outer pos groups hc
        obtain ⟨p', hc', hp⟩ := hd.close? hc
        cases hg with
        | cons ho hg =>
          rw [hc']
          exact ih h (ho.push ⟨p', rfl, hp⟩) hg
    | pipe =>
      cases ht
      simp only [readFrom] at h ⊢
      split at h
      · cases h
      · rename_i p hc
        obtain ⟨p', hc', hp⟩ := hd.close? hc
        rw [hc']
        exact ih h ⟨hp, rfl, rfl⟩ hg

theorem TokensRead.alike {tokens tokens' : List Token} {pipeline : Pipeline}
    (h : TokensRead tokens pipeline) (ht : List.Forall₂ (Token.Alike r) tokens tokens') :
    ∃ pipeline', TokensRead tokens' pipeline' ∧ Pipeline.Alike r pipeline pipeline' := by
  refine readFrom_alike h .empty .nil ?_
  rw [List.forall₂_map_left_iff, List.forall₂_map_right_iff]
  exact ht

/-! ## Literals that are related to themselves only -/

mutual

theorem Operand.Alike.eq {p : Operand → Bool} {a b : Operand} (h : Operand.Alike r a b)
    (hr : ∀ s t, r s t → p (.text s) = false → s = t) (hp : a.mentions p = false) : a = b := by
  match a with
  | .text s =>
    obtain ⟨t, rfl, ht⟩ := h
    rw [hr s t ht hp]
  | .chain base path =>
    obtain ⟨base', rfl, hb⟩ := h
    rw [Operand.Alike.eq hb hr hp]
  | .group commands =>
    obtain ⟨commands', rfl, hc⟩ := h
    rw [Pipeline.Alike.eq hc hr hp]
  | .dot | .field _ | .function _ | .int _ | .truth _ | .nothing => exact h

theorem Command.Alike.eq {p : Operand → Bool} {c d : List Operand} (h : Command.Alike r c d)
    (hr : ∀ s t, r s t → p (.text s) = false → s = t) (hp : Command.mentions p c = false) : c = d := by
  match c with
  | [] => exact h.symm
  | operand :: rest =>
    obtain ⟨operand', rest', rfl, ho, hc⟩ := h
    rw [Command.mentions, Bool.or_eq_false_iff] at hp
    rw [Operand.Alike.eq ho hr hp.1, Command.Alike.eq hc hr hp.2]

theorem Pipeline.Alike.eq {p : Operand → Bool} {c d : List (List Operand)} (h : Pipeline.Alike r c d)
    (hr : ∀ s t, r s t → p (.text s) = false → s = t) (hp : Pipeline.mentions p c = false) : c = d := by
  match c with
  | [] => exact h.symm
  | command :: rest =>
    obtain ⟨command', rest', rfl, ho, hc⟩ := h
    rw [Pipeline.mentions, Bool.or_eq_false_iff] at hp
    rw [Command.Alike.eq ho hr hp.1, Pipeline.Alike.eq hc hr hp.2]

end

end Rollout.Template
