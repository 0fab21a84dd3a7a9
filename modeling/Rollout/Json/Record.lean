import Rollout.Json.Written

/-!
# Records

A record is written as an object, in any order and with members that it does not know, or as an array
of its fields in their order, whose end may be missing. A field that is not written stays as it is in
the empty record; a field must not be written twice. Everything is read in the order in which it is
written, so that of several faults the first one counts.
-/

namespace Rollout

open Json

inductive DecodeError where
  | mismatch
  /-- A field is written a second time. -/
  | repeated
  /-- An array goes on behind the last field. -/
  | surplus
  /-- There is no value, or none that can be held. -/
  | unreadable
deriving DecidableEq, Repr

namespace Json.Written

/-! ## Simple values -/

/-- Why something that is written does not fit. The inside of an array or object does not matter. -/
def misfit : Written → DecodeError
  | .number none | .string none | .broken => .unreadable
  | _ => .mismatch

def asText : Written → Except DecodeError String
  | .string (some s) => .ok s
  | other => .error other.misfit

def asInt64 : Written → Except DecodeError Int64
  | .number (some (.int n)) => if Text.isInt64 n then .ok (.ofInt n) else .error .mismatch
  | other => .error other.misfit

def asNatBelow (bound : Nat) : Written → Except DecodeError Nat
  | .number (some (.int (.ofNat n))) => if n < bound then .ok n else .error .mismatch
  | other => .error other.misfit

def asUInt32 (value : Written) : Except DecodeError UInt32 :=
  .ofNat <$> value.asNatBelow UInt32.size

def asUInt8 (value : Written) : Except DecodeError UInt8 :=
  .ofNat <$> value.asNatBelow UInt8.size

def asList {α : Type} (decode : Written → Except DecodeError α) :
    Written → Except DecodeError (List α)
  | .array items => items.mapM decode
  | other => .error other.misfit

def asOptional {α : Type} (decode : Written → Except DecodeError α) :
    Written → Except DecodeError (Option α)
  | .null => .ok none
  | value => some <$> decode value

end Json.Written

/-! ## Fields -/

/-- A field of a record: the names that it goes by, and how what is written changes the record. -/
structure Field (α : Type) where
  names : List String
  read : Written → Except DecodeError (α → α)

namespace Field

variable {α β : Type}

def of (decode : Written → Except DecodeError β) (name : String) (put : α → β → α) : Field α where
  names := [name]
  read value := do
    let content ← decode value
    return (put · content)

def text : String → (α → String → α) → Field α :=
  of Written.asText

def list (decode : Written → Except DecodeError β) : String → (α → List β → α) → Field α :=
  of (Written.asList decode)

def optional (decode : Written → Except DecodeError β) : String → (α → Option β → α) → Field α :=
  of (Written.asOptional decode)

def alsoNamed (name : String) (field : Field α) : Field α :=
  { field with names := field.names ++ [name] }

end Field

/-! ## Reading -/

namespace Json.Written

variable {α : Type}

/-- Reads the members of an object behind those with the keys `seen`. A field's second value is not
looked at, and of a value that belongs to no field it only matters that it is complete. -/
def readMembers (fields : List (Field α)) (seen : List String) (record : α) :
    List (Option String × Written) → Except DecodeError α
  | [] => .ok record
  | (none, _) :: _ => .error .unreadable
  | (some key, value) :: rest =>
    match fields.find? (·.names.contains key) with
    | none =>
      if value.isBroken then .error .unreadable else readMembers fields seen record rest
    | some field =>
      if field.names.any seen.contains then .error .repeated
      else do
        let change ← field.read value
        readMembers fields (key :: seen) (change record) rest

def readItems (record : α) : List (Field α) → List Written → Except DecodeError α
  | _, [] => .ok record
  | [], _ :: _ => .error .surplus
  | field :: fields, item :: items => do
    let change ← field.read item
    readItems (change record) fields items

def asRecord (fields : List (Field α)) (empty : α) : Written → Except DecodeError α
  | .object members => readMembers fields [] empty members
  | .array items => readItems empty fields items
  | other => .error other.misfit

end Json.Written

/-! ## Encoding -/

namespace Json

def ofOption {α : Type} (encode : α → Json) : Option α → Json
  | none => .null
  | some value => encode value

def ofList {α : Type} (encode : α → Json) (values : List α) : Json :=
  .array (values.map encode)

end Json

end Rollout
