import Rollout.Proofs.Json.Record
import Rollout.Scenario.Decode
import Rollout.Scenario.Encode

/-!
# Documents from what they are written as

A document is decoded from what it is encoded as, and from what any of its records can be written as
instead: with its members in another order, with others between them, without those that are as in an
empty record, and with the containers of a playbook under their other name (`decode_rewritten`).
-/

namespace Rollout

open Json

/-! ## Values -/

theorem asInt64_written (n : Int64) : Written.asInt64 (Json.int n.toInt).written = .ok n := by
  have lower := n.le_toInt
  have upper := n.toInt_lt
  have held : Text.isInt64 n.toInt = true := by
    simp only [Text.isInt64, Bool.and_eq_true, decide_eq_true_eq]
    omega
  simp [Json.int, written, Written.asInt64, held]

theorem asUInt32_written (n : UInt32) : Written.asUInt32 (Json.int n.toNat).written = .ok n := by
  have natural : Written.asNatBelow UInt32.size (Json.int n.toNat).written = .ok n.toNat :=
    if_pos n.toNat_lt
  rw [Written.asUInt32, natural]
  exact congrArg Except.ok n.ofNat_toNat

section

variable {α : Type} {encode : α → Json} {decode : Written → Except DecodeError α}

theorem asList_written (h : ∀ a, decode (encode a).written = .ok a) (as : List α) :
    Written.asList decode (Json.ofList encode as).written = .ok as := by
  rw [Json.ofList, written, Written.asList, writtenItems_eq_map, mapM_eq_ok_iff, List.map_map,
    List.forall₂_map_left_iff, List.forall₂_same]
  exact fun a _ => h a

theorem asOptional_written (h : ∀ a, decode (encode a).written = .ok a)
    (hn : ∀ a, (encode a).written ≠ .null) (a : Option α) :
    Written.asOptional decode (Json.ofOption encode a).written = .ok a := by
  cases a with
  | none => rfl
  | some a =>
    rw [Json.ofOption, Written.asOptional, h]
    · rfl
    · exact hn a

end

/-! ## Records as they are encoded -/

theorem Os.decode_encode (os : Os) : Os.decode os.encode.written = .ok os := by
  rfl

theorem Credentials.decode_encode (c : Credentials) : Credentials.decode c.encode.written = .ok c := by
  rfl

theorem Repository.decode_encode (r : Repository) : Repository.decode r.encode.written = .ok r := by
  rfl

theorem Container.decode_encode (c : Container) : Container.decode c.encode.written = .ok c := by
  rfl

theorem Customization.decode_encode (c : Customization) :
    Customization.decode c.encode.written = .ok c := by
  have mode := asUInt32_written c.mode
  simp [Customization.decode, Customization.encode, written, writtenMembers, Written.asRecord,
    Customization.fields, Written.readMembers, Field.text, Field.of, Written.asText, mode, bind,
    Except.bind, pure, Except.pure]

theorem App.decode_encode (app : App) : App.decode app.encode.written = .ok app := by
  have ports := asList_written asInt64_written app.ports
  have credentials := asOptional_written Credentials.decode_encode (fun _ => nofun) app.credentials
  have customizations := asList_written Customization.decode_encode app.customizations
  have repository := asOptional_written Repository.decode_encode (fun _ => nofun) app.repository
  simp [App.decode, App.encode, written, writtenMembers, Written.asRecord, App.fields,
    Written.readMembers, Field.text, Field.list, Field.optional, Field.of, Written.asText, ports,
    credentials, customizations, repository, bind, Except.bind, pure, Except.pure]

theorem Playbook.decode_encode (p : Playbook) : Playbook.decode p.encode.written = .ok p := by
  have apps : Written.asList Written.asText (Json.ofList .string p.apps).written = .ok p.apps :=
    asList_written (fun _ => rfl) p.apps
  have containers := asList_written Container.decode_encode p.containers
  simp [Playbook.decode, Playbook.encode, written, writtenMembers, Written.asRecord, Playbook.fields,
    Written.readMembers, Field.text, Field.list, Field.alsoNamed, Field.of, Written.asText, apps,
    containers, bind, Except.bind, pure, Except.pure]

theorem Document.decode_encode (d : Document) : Document.decode d.encode.written = .ok d := by
  have oses := asList_written Os.decode_encode d.oses
  have apps := asList_written App.decode_encode d.apps
  have playbooks := asList_written Playbook.decode_encode d.playbooks
  simp [Document.decode, Document.encode, Document.members, written, writtenMembers, Written.asRecord,
    Document.fields, Written.readMembers, Field.text, Field.list, Field.of, Written.asText, oses, apps,
    playbooks, bind, Except.bind, pure, Except.pure]

/-! ## Records written in other ways -/

def Os.layout : RecordLayout where
  defaults := (Os.encode {}).members

def Credentials.layout : RecordLayout where
  defaults := (Credentials.encode {}).members

def Repository.layout : RecordLayout where
  defaults := (Repository.encode {}).members

def Customization.layout : RecordLayout where
  defaults := (Customization.encode {}).members

def App.layout : RecordLayout where
  defaults := (App.encode {}).members
  parts := [("cred", Credentials.layout.Step),
    ("customizations", ItemStep Customization.layout.Step),
    ("repository", Repository.layout.Step)]

def Container.layout : RecordLayout where
  defaults := (Container.encode {}).members

def Playbook.layout : RecordLayout where
  defaults := (Playbook.encode {}).members
  aliases := [("containers", "actions")]
  parts := [("containers", ItemStep Container.layout.Step),
    ("actions", ItemStep Container.layout.Step)]

def Document.layout : RecordLayout where
  defaults := (Document.encode {}).members
  parts := [("oses", ItemStep Os.layout.Step), ("apps", ItemStep App.layout.Step),
    ("playbooks", ItemStep Playbook.layout.Step)]

theorem Os.stable : Stable Os.decode Os.layout.Step := by
  have fits : Os.layout.Fits Os.fields {} :=
    { apart := by simp [Os.fields, Field.text, Field.apart_of] }
  exact fits.stable

theorem Credentials.stable : Stable Credentials.decode Credentials.layout.Step := by
  have fits : Credentials.layout.Fits Credentials.fields {} :=
    { apart := by simp [Credentials.fields, Field.text, Field.apart_of] }
  exact fits.stable

theorem Repository.stable : Stable Repository.decode Repository.layout.Step := by
  have fits : Repository.layout.Fits Repository.fields {} :=
    { apart := by simp [Repository.fields, Field.text, Field.apart_of] }
  exact fits.stable

theorem Customization.stable : Stable Customization.decode Customization.layout.Step := by
  have fits : Customization.layout.Fits Customization.fields {} :=
    { apart := by simp [Customization.fields, Field.text, Field.apart_of] }
  exact fits.stable

theorem Container.stable : Stable Container.decode Container.layout.Step := by
  have fits : Container.layout.Fits Container.fields {} :=
    { apart := by simp [Container.fields, Field.text, Field.apart_of] }
  exact fits.stable

theorem App.stable : Stable App.decode App.layout.Step := by
  have credentials := Credentials.stable.optional RecordLayout.Step.ne_null
  have customizations := Customization.stable.list
  have repository := Repository.stable.optional RecordLayout.Step.ne_null
  have fits : App.layout.Fits App.fields {} :=
    { apart := by simp [App.fields, Field.text, Field.list, Field.optional, Field.apart_of]
      parts := by
        simp [App.layout, App.fields, Field.text, Field.list, Field.optional, Stable.of, credentials,
          customizations, repository] }
  exact fits.stable

theorem Playbook.stable : Stable Playbook.decode Playbook.layout.Step := by
  have containers := Container.stable.list
  have fits : Playbook.layout.Fits Playbook.fields {} :=
    { apart := by
        simp [Playbook.fields, Field.text, Field.list, Field.apart_of, Field.Apart.alsoNamed]
      parts := by
        simp [Playbook.layout, Playbook.fields, Field.text, Field.list, Stable.of, Stable.alsoNamed,
          containers] }
  exact fits.stable

theorem Document.stable : Stable Document.decode Document.layout.Step := by
  have oses := Os.stable.list
  have apps := App.stable.list
  have playbooks := Playbook.stable.list
  have fits : Document.layout.Fits Document.fields {} :=
    { apart := by simp [Document.fields, Field.text, Field.list, Field.apart_of]
      parts := by
        simp [Document.layout, Document.fields, Field.text, Field.list, Stable.of, oses, apps,
          playbooks] }
  exact fits.stable

/-- A document is decoded from what it is encoded as, and from everything that this can be made by
changing how its records are written. -/
theorem Document.decode_rewritten (d : Document) :
    Document.decode d.encode.written = .ok d ∧
      ∀ json, Relation.ReflTransGen Document.layout.Step d.encode json →
        Document.decode json.written = .ok d := by
  refine ⟨d.decode_encode, fun json steps => ?_⟩
  induction steps with
  | refl => exact d.decode_encode
  | tail _ step ih => exact Document.stable step ih

/-- The first member left out and the last one moved to the front, with the containers of its playbook
under their other name, and a member that is unknown. -/
theorem Document.decode_rewritten_actions :
    let d : Document :=
      { dest := "/srv", playbooks := [{ inventory := "all", containers := [{ params := "-d x" }] }] }
    let container := Json.object
      [("params", .string "-d x"), ("name", .string ""), ("state", .string "")]
    let front := [("name", Json.string ""), ("play", .string ""), ("state", .string ""),
      ("inventory", .string "all"), ("user", .string ""), ("apps", .array [])]
    let json := Json.object [("owner", .string "ops"),
      ("playbooks", .array [.object (("actions", .array [container]) :: front)]),
      ("env", .string ""), ("description", .string ""), ("dest", .string "/srv"),
      ("oses", .array []), ("apps", .array [])]
    Relation.ReflTransGen Document.layout.Step d.encode json ∧
      Document.decode json.written = .ok d := by
  intro d container front json
  let middle := [("env", Json.string ""), ("description", .string ""), ("dest", .string "/srv"),
    ("oses", .array []), ("apps", .array [])]
  let written (playbook : List (String × Json)) := Json.object
    (("playbooks", .array [.object playbook]) :: middle)
  have inside {playbook playbook' : List (String × Json)}
      (h : Playbook.layout.Step (.object playbook) (.object playbook')) :
      Document.layout.Step (written playbook) (written playbook') := by
    have part : ("playbooks", ItemStep Playbook.layout.Step) ∈ Document.layout.parts := by
      simp [Document.layout]
    exact .inside part (.item [] [] h)
  have steps : Relation.ReflTransGen Document.layout.Step d.encode json := by
    have absent : ("id", Json.string "") ∈ Document.layout.defaults := by
      simp [Document.layout, Document.encode, Document.members, Json.members]
    refine .head (.drop absent) ?_
    refine .head (.permute (List.perm_append_comm : List.Perm (middle ++ _) _)) ?_
    refine .head (inside (.permute (List.perm_append_comm : List.Perm (front ++ _) _))) ?_
    refine .head (inside (.rename (by decide))) (.single (.add (by decide)))
  exact ⟨steps, d.decode_rewritten.2 json steps⟩

end Rollout
