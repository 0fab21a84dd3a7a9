import Rollout.Json.Basic

/-!
# Values as they are written

What stands in a text in the place of a value. It may be a value by its form and yet stand for none,
and the text may stop being a value anywhere inside. `value?` gives the value that is written, and
`value?_written` says that every value can be.
-/

namespace Rollout.Json

inductive Written where
  | null
  | bool (value : Bool)
  /-- A number, none beyond the doubles. -/
  | number (value : Option Number)
  /-- A text, none if half of a pair stands alone in it. -/
  | string (value : Option String)
  | array (items : List Written)
  /-- The members, with keys that are texts of the same kind. -/
  | object (members : List (Option String × Written))
  /-- The place behind which the text is no value any more. -/
  | broken
deriving Inhabited

namespace Written

mutual

/-- Whether the text breaks off inside. -/
def isBroken : Written → Bool
  | .array items => anyBroken items
  | .object members => anyMemberBroken members
  | .broken => true
  | _ => false

def anyBroken : List Written → Bool
  | [] => false
  | item :: rest => item.isBroken || anyBroken rest

def anyMemberBroken : List (Option String × Written) → Bool
  | [] => false
  | (_, value) :: rest => value.isBroken || anyMemberBroken rest

end

mutual

def value? : Written → Option Json
  | .null => some .null
  | .bool value => some (.bool value)
  | .number value => value.map .number
  | .string value => value.map .string
  | .array items => (itemValues? items).map .array
  | .object members => (memberValues? members).map .object
  | .broken => none

def itemValues? : List Written → Option (List Json)
  | [] => some []
  | item :: rest => do
    let value ← item.value?
    let values ← itemValues? rest
    return value :: values

def memberValues? : List (Option String × Written) → Option (List (String × Json))
  | [] => some []
  | (key, item) :: rest => do
    let key ← key
    let value ← item.value?
    let members ← memberValues? rest
    return (key, value) :: members

end

end Written

/-! ## Writing a value -/

mutual

def written : Json → Written
  | .null => .null
  | .bool value => .bool value
  | .number value => .number (some value)
  | .string value => .string (some value)
  | .array items => .array (writtenItems items)
  | .object members => .object (writtenMembers members)

def writtenItems : List Json → List Written
  | [] => []
  | item :: rest => item.written :: writtenItems rest

def writtenMembers : List (String × Json) → List (Option String × Written)
  | [] => []
  | (key, value) :: rest => (some key, value.written) :: writtenMembers rest

end

mutual

theorem value?_written (v : Json) : v.written.value? = some v := by
  cases v with
  | null | bool | number | string => simp [written, Written.value?]
  | array items => simp [written, Written.value?, itemValues?_writtenItems items]
  | object members => simp [written, Written.value?, memberValues?_writtenMembers members]

theorem itemValues?_writtenItems (items : List Json) :
    Written.itemValues? (writtenItems items) = some items := by
  cases items with
  | nil => rfl
  | cons item rest =>
    simp [writtenItems, Written.itemValues?, value?_written item, itemValues?_writtenItems rest]

theorem memberValues?_writtenMembers (members : List (String × Json)) :
    Written.memberValues? (writtenMembers members) = some members := by
  cases members with
  | nil => rfl
  | cons member rest =>
    obtain ⟨key, value⟩ := member
    simp [writtenMembers, Written.memberValues?, value?_written value,
      memberValues?_writtenMembers rest]

end

end Rollout.Json
