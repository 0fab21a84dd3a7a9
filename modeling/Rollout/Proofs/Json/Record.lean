import Mathlib.Data.List.Basic
import Mathlib.Data.List.Pairwise
import Mathlib.Logic.Relation
import Rollout.Json.Record
import Rollout.Proofs.Outcome

/-!
# Records written in other ways

A record is read from an object by the keys of its members. So it does not matter in which order they
stand, what stands under other keys, and which of its names a field goes by; and a field that is as in
the empty record may be left out. `RecordLayout.Step` is one such change, here or in the value of a
field, and `RecordLayout.Fits.stable` says that the record is read as before it.
-/

namespace Rollout

open Json

/-! ## Written values -/

namespace Json

mutual

theorem isBroken_written (v : Json) : v.written.isBroken = false := by
  cases v with
  | null | bool | number | string => rfl
  | array items => exact anyBroken_writtenItems items
  | object members => exact anyMemberBroken_writtenMembers members

theorem anyBroken_writtenItems (items : List Json) : Written.anyBroken (writtenItems items) = false := by
  cases items with
  | nil => rfl
  | cons item rest =>
    rw [writtenItems, Written.anyBroken, isBroken_written item, anyBroken_writtenItems rest]
    rfl

theorem anyMemberBroken_writtenMembers (members : List (String × Json)) :
    Written.anyMemberBroken (writtenMembers members) = false := by
  cases members with
  | nil => rfl
  | cons member rest =>
    obtain ⟨key, value⟩ := member
    rw [writtenMembers, Written.anyMemberBroken, isBroken_written value,
      anyMemberBroken_writtenMembers rest]
    rfl

end

def members : Json → List (String × Json)
  | .object members => members
  | _ => []

theorem writtenItems_eq_map (items : List Json) : writtenItems items = items.map written := by
  induction items with
  | nil => rfl
  | cons item rest ih => rw [writtenItems, ih, List.map_cons]

end Json

section

variable {α β γ : Type}

/-! ## Fields -/

/-- Whether two fields have no name in common and can be read in either order. -/
structure Field.Apart (f g : Field α) : Prop where
  names : List.Disjoint f.names g.names
  commute : ∀ {v w c d}, f.read v = .ok c → g.read w = .ok d → ∀ r, c (d r) = d (c r)

instance : Std.Symm (@Field.Apart α) where
  symm _ _ h := ⟨List.disjoint_symm h.names, fun hv hw r => (h.commute hw hv r).symm⟩

@[simp] theorem Field.names_of (decode : Written → Except DecodeError β) (name : String)
    (put : α → β → α) : (Field.of decode name put).names = [name] :=
  rfl

@[simp] theorem Field.names_alsoNamed (name : String) (field : Field α) :
    (field.alsoNamed name).names = field.names ++ [name] :=
  rfl

theorem Field.of_read_eq_ok {decode : Written → Except DecodeError β} {name : String}
    {put : α → β → α} {v : Written} {c : α → α} :
    (Field.of decode name put).read v = .ok c ↔ ∃ b, decode v = .ok b ∧ c = (put · b) := by
  rw [Field.of, bind_eq_ok]
  simp only [pure, Except.pure, Except.ok.injEq, eq_comm]

theorem Field.apart_of {decode : Written → Except DecodeError β}
    {decode' : Written → Except DecodeError γ} {name name' : String} {put : α → β → α}
    {put' : α → γ → α} (hn : name ≠ name') (hp : ∀ r b c, put (put' r c) b = put' (put r b) c) :
    (Field.of decode name put).Apart (Field.of decode' name' put') where
  names := by simpa using Ne.symm hn
  commute hv hw r := by
    obtain ⟨b, -, rfl⟩ := of_read_eq_ok.1 hv
    obtain ⟨c, -, rfl⟩ := of_read_eq_ok.1 hw
    exact hp r b c

theorem Field.Apart.alsoNamed {f g : Field α} (h : f.Apart g) {name : String} (hn : name ∉ f.names) :
    f.Apart (g.alsoNamed name) where
  names := by simpa using ⟨h.names, hn⟩
  commute := h.commute

/-! ## Members -/

section

variable {fields : List (Field α)} {seen seen' : List String} {record result : α}

theorem find?_names (apart : fields.Pairwise Field.Apart) {field : Field α} (hf : field ∈ fields)
    {key : String} (hk : key ∈ field.names) : fields.find? (·.names.contains key) = some field := by
  induction apart with
  | nil => cases hf
  | @cons first fields hc _ ih =>
    rcases List.mem_cons.1 hf with rfl | hf
    · exact List.find?_cons_of_pos (by simpa using hk)
    · have hn : key ∉ first.names := fun hm => (hc field hf).names hm hk
      rw [List.find?_cons_of_neg (by simpa using hn)]
      exact ih hf

/-- A first member belongs to no field, or it is the first of its field and changes the record. -/
theorem readMembers_cons_eq_ok {key : String} {value : Json} {members : List (String × Json)} :
    Written.readMembers fields seen record (writtenMembers ((key, value) :: members)) = .ok result ↔
      (fields.find? (·.names.contains key) = none ∧
        Written.readMembers fields seen record (writtenMembers members) = .ok result) ∨
      ∃ field change, fields.find? (·.names.contains key) = some field ∧
        List.Disjoint field.names seen ∧ field.read value.written = .ok change ∧
        Written.readMembers fields (key :: seen) (change record) (writtenMembers members) =
          .ok result := by
  have disjoint (field : Field α) :
      field.names.any seen.contains = true ↔ ¬ List.Disjoint field.names seen := by
    simp [List.Disjoint]
  rw [writtenMembers, Written.readMembers]
  cases fields.find? (·.names.contains key) with
  | none => simp [isBroken_written]
  | some field =>
    by_cases hd : List.Disjoint field.names seen
    · simp [disjoint, hd, bind_eq_ok]
    · simp [disjoint, hd]

/-- Keys of no field, or of fields with another key that has been seen, can be forgotten. -/
theorem readMembers_of_seen {members : List (String × Json)}
    (hs : ∀ field ∈ fields, List.Disjoint field.names seen → List.Disjoint field.names seen')
    (h : Written.readMembers fields seen record (writtenMembers members) = .ok result) :
    Written.readMembers fields seen' record (writtenMembers members) = .ok result := by
  induction members generalizing seen seen' record with
  | nil => exact h
  | cons member rest ih =>
    obtain ⟨key, value⟩ := member
    rw [readMembers_cons_eq_ok] at h ⊢
    obtain ⟨hn, h⟩ | ⟨field, change, hk, hd, hr, h⟩ := h
    · exact .inl ⟨hn, ih hs h⟩
    · refine .inr ⟨field, change, hk, hs field (List.mem_of_find?_eq_some hk) hd, hr, ih ?_ h⟩
      intro field hf hd
      rw [List.disjoint_cons_right] at hd ⊢
      exact ⟨hd.1, hs field hf hd.2⟩

theorem readMembers_swap (apart : fields.Pairwise Field.Apart) (a b : String × Json)
    {members : List (String × Json)}
    (h : Written.readMembers fields seen record (writtenMembers (a :: b :: members)) = .ok result) :
    Written.readMembers fields seen record (writtenMembers (b :: a :: members)) = .ok result := by
  obtain ⟨key, value⟩ := a
  obtain ⟨key', value'⟩ := b
  simp only [readMembers_cons_eq_ok] at h ⊢
  obtain ⟨hn, ⟨hn', h⟩ | ⟨field', change', hk', hd', hr', h⟩⟩ |
    ⟨field, change, hk, hd, hr, ⟨hn', h⟩ | ⟨field', change', hk', hd', hr', h⟩⟩ := h
  · exact .inl ⟨hn', .inl ⟨hn, h⟩⟩
  · exact .inr ⟨field', change', hk', hd', hr', .inl ⟨hn, h⟩⟩
  · exact .inl ⟨hn', .inr ⟨field, change, hk, hd, hr, h⟩⟩
  · -- The second field is not the first one, whose key has been seen.
    rw [List.disjoint_cons_right] at hd'
    have hf : key ∈ field.names := by simpa using List.find?_some hk
    have hf' : key' ∈ field'.names := by simpa using List.find?_some hk'
    have both : field.Apart field' := by
      refine apart.forall (List.mem_of_find?_eq_some hk) (List.mem_of_find?_eq_some hk') ?_
      rintro rfl
      exact hd'.1 hf
    have fresh : key' ∉ field.names := fun hm => both.names hm hf'
    refine .inr ⟨field', change', hk', hd'.2, hr', .inr ⟨field, change, hk, ?_, hr, ?_⟩⟩
    · exact List.disjoint_cons_right.2 ⟨fresh, hd⟩
    · rw [both.commute hr hr']
      refine readMembers_of_seen ?_ h
      intro field _ hd
      simp only [List.disjoint_cons_right] at hd ⊢
      tauto

theorem readMembers_perm (apart : fields.Pairwise Field.Apart) {members members' : List (String × Json)}
    (hp : members.Perm members')
    (h : Written.readMembers fields seen record (writtenMembers members) = .ok result) :
    Written.readMembers fields seen record (writtenMembers members') = .ok result := by
  induction hp generalizing seen record with
  | nil => exact h
  | trans _ _ ih ih' => exact ih' (ih h)
  | cons member _ ih =>
    obtain ⟨key, value⟩ := member
    rw [readMembers_cons_eq_ok] at h ⊢
    obtain ⟨hn, h⟩ | ⟨field, change, hk, hd, hr, h⟩ := h
    · exact .inl ⟨hn, ih h⟩
    · exact .inr ⟨field, change, hk, hd, hr, ih h⟩
  | swap a b members => exact readMembers_swap apart b a h

end

/-! ## Layouts -/

/-- What there is to know of a kind of record in order to write it in another way. -/
structure RecordLayout where
  /-- The members of the empty record. -/
  defaults : List (String × Json)
  /-- Names of fields, each with another one. -/
  aliases : List (String × String) := []
  /-- Names of fields, each with how a value can be written in another way there. -/
  parts : List (String × (Json → Json → Prop)) := []

namespace RecordLayout

def names (layout : RecordLayout) : List String :=
  layout.defaults.map (·.1) ++ layout.aliases.map (·.2)

/-- One change in how a record is written. All but the first are about the first member, as the first
one can bring any member there. -/
inductive Step (layout : RecordLayout) : Json → Json → Prop where
  | permute {members members'} : members.Perm members' →
      Step layout (.object members) (.object members')
  | add {key value members} : key ∉ layout.names →
      Step layout (.object members) (.object ((key, value) :: members))
  | drop {member members} : member ∈ layout.defaults →
      Step layout (.object (member :: members)) (.object members)
  | rename {name other value members} : (name, other) ∈ layout.aliases →
      Step layout (.object ((name, value) :: members)) (.object ((other, value) :: members))
  | inside {key step value value' members} : (key, step) ∈ layout.parts → step value value' →
      Step layout (.object ((key, value) :: members)) (.object ((key, value') :: members))

end RecordLayout

/-- A change in one of the items of an array. -/
inductive ItemStep (step : Json → Json → Prop) : Json → Json → Prop where
  | item {value value'} (front back : List Json) : step value value' →
      ItemStep step (.array (front ++ value :: back)) (.array (front ++ value' :: back))

/-- Whether a change does not matter to what is decoded. -/
def Stable (decode : Written → Except DecodeError β) (step : Json → Json → Prop) : Prop :=
  ∀ ⦃v v' b⦄, step v v' → decode v.written = .ok b → decode v'.written = .ok b

theorem Stable.list {decode : Written → Except DecodeError β} {step : Json → Json → Prop}
    (h : Stable decode step) : Stable (Written.asList decode) (ItemStep step) := by
  rintro _ _ items ⟨front, back, hs⟩ hd
  simp only [written, Written.asList, writtenItems_eq_map, List.map_append, List.map_cons,
    List.mapM_append, List.mapM_cons, bind_eq_ok] at hd ⊢
  obtain ⟨before, hb, rest, ⟨item, hi, hr⟩, hd⟩ := hd
  exact ⟨before, hb, rest, ⟨item, h hs hi, hr⟩, hd⟩

theorem Stable.optional {decode : Written → Except DecodeError β} {step : Json → Json → Prop}
    (h : Stable decode step) (hn : ∀ ⦃v v'⦄, step v v' → v ≠ .null ∧ v' ≠ .null) :
    Stable (Written.asOptional decode) step := by
  have some {v : Json} (hv : v ≠ .null) :
      Written.asOptional decode v.written = some <$> decode v.written := by
    cases v with
    | null => exact absurd rfl hv
    | _ => rfl
  intro v v' b hs hd
  rw [some (hn hs).1, map_eq_ok] at hd
  rw [some (hn hs).2, map_eq_ok]
  obtain ⟨content, hc, rfl⟩ := hd
  exact ⟨content, h hs hc, rfl⟩

theorem Stable.of {decode : Written → Except DecodeError β} {step : Json → Json → Prop}
    (h : Stable decode step) (name : String) (put : α → β → α) :
    Stable (Field.of decode name put).read step := by
  intro v v' c hs hd
  rw [Field.of_read_eq_ok] at hd ⊢
  obtain ⟨b, hb, rfl⟩ := hd
  exact ⟨b, h hs hb, rfl⟩

theorem Stable.alsoNamed {field : Field α} {step : Json → Json → Prop} (h : Stable field.read step)
    (name : String) : Stable (field.alsoNamed name).read step :=
  h

namespace RecordLayout

/-- Whether a layout is one of the records that are read by some fields. -/
structure Fits (layout : RecordLayout) (fields : List (Field α)) (empty : α) : Prop where
  apart : fields.Pairwise Field.Apart
  names : ∀ field ∈ fields, ∀ name ∈ field.names, name ∈ layout.names := by decide
  defaults : ∀ member ∈ layout.defaults,
    Written.asRecord fields empty (Json.object [member]).written = .ok empty := by decide
  aliases : ∀ pair ∈ layout.aliases, ∃ field ∈ fields, pair.1 ∈ field.names ∧ pair.2 ∈ field.names := by
    decide
  parts : ∀ part ∈ layout.parts, ∀ field ∈ fields, part.1 ∈ field.names →
    Stable field.read part.2 := by nofun

variable {layout : RecordLayout} {fields : List (Field α)} {empty : α}

theorem Step.ne_null ⦃v v' : Json⦄ (h : layout.Step v v') : v ≠ .null ∧ v' ≠ .null := by
  cases h <;> exact ⟨nofun, nofun⟩

theorem Fits.stable (fits : layout.Fits fields empty) :
    Stable (Written.asRecord fields empty) layout.Step := by
  intro v v' record hs h
  have find {field : Field α} (hf : field ∈ fields) {key : String} (hk : key ∈ field.names) :
      fields.find? (·.names.contains key) = some field := find?_names fits.apart hf hk
  cases hs with
  | permute hp => exact readMembers_perm fits.apart hp h
  | @add key value members hk =>
    have unknown : fields.find? (·.names.contains key) = none := by
      rw [List.find?_eq_none]
      intro field hf hc
      exact hk (fits.names field hf key (by simpa using hc))
    exact readMembers_cons_eq_ok.2 (.inl ⟨unknown, h⟩)
  | @drop member members hm =>
    obtain ⟨key, value⟩ := member
    have alone := fits.defaults _ hm
    obtain ⟨-, h⟩ | ⟨field, change, hk, hd, hr, h⟩ := readMembers_cons_eq_ok.1 h
    · exact h
    · obtain ⟨hn, -⟩ | ⟨field', change', hk', -, hr', he⟩ := readMembers_cons_eq_ok.1 alone
      · cases hn.symm.trans hk
      cases hk.symm.trans hk'
      cases hr.symm.trans hr'
      have same : change empty = empty := Except.ok.inj he
      rw [same] at h
      exact readMembers_of_seen (fun _ _ _ => List.disjoint_nil_right _) h
  | @rename name other value members ha =>
    obtain ⟨field, hf, hn, ho⟩ := fits.aliases _ ha
    obtain ⟨hu, -⟩ | ⟨field', change, hk, hd, hr, h⟩ := readMembers_cons_eq_ok.1 h
    · cases hu.symm.trans (find hf hn)
    cases hk.symm.trans (find hf hn)
    refine readMembers_cons_eq_ok.2 (.inr ⟨field, change, find hf ho, hd, hr, ?_⟩)
    refine readMembers_of_seen ?_ h
    intro field' hf' hd'
    rw [List.disjoint_cons_right] at hd' ⊢
    refine ⟨fun hm => ?_, hd'.2⟩
    cases (find hf ho).symm.trans (find hf' hm)
    exact hd'.1 hn
  | @inside key step value value' members hp hs =>
    obtain ⟨hu, h⟩ | ⟨field, change, hk, hd, hr, h⟩ := readMembers_cons_eq_ok.1 h
    · exact readMembers_cons_eq_ok.2 (.inl ⟨hu, h⟩)
    · have hf : key ∈ field.names := by simpa using List.find?_some hk
      have hr' := fits.parts _ hp field (List.mem_of_find?_eq_some hk) hf hs hr
      exact readMembers_cons_eq_ok.2 (.inr ⟨field, change, hk, hd, hr', h⟩)

end RecordLayout

end

end Rollout
