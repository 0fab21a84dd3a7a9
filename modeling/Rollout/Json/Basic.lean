import Rollout.Text.Digits

/-!
# JSON values

A value keeps the members of an object in the order in which they were written, repeated keys
included. `canonical` gives the value that it stands for: members sorted by key, and of a repeated
key the last one. A fractional number is held as the bits of a double.
-/

namespace Rollout

/-- A number: an integer, or the bits of a double. -/
inductive Number where
  | int (value : Int)
  | float (bits : UInt64)
deriving DecidableEq, Repr

inductive Json where
  | null
  | bool (value : Bool)
  | number (value : Number)
  | string (value : String)
  | array (items : List Json)
  | object (members : List (String × Json))
deriving Inhabited

namespace Json

def int (n : Int) : Json :=
  .number (.int n)

def int64? : Json → Option Int
  | .number (.int n) => if Text.isInt64 n then some n else none
  | _ => none

def isString : Json → Bool
  | .string _ => true
  | _ => false

def member? (key : String) : Json → Option Json
  | .object members => members.lookup key
  | _ => none

/-! ## Canonical form -/

/-- Adds a member to members sorted by key; a key that is there already is left alone. -/
def insertMember (key : String) (value : Json) : List (String × Json) → List (String × Json)
  | [] => [(key, value)]
  | (k, v) :: rest =>
    if key < k then (key, value) :: (k, v) :: rest
    else if key = k then (k, v) :: rest
    else (k, v) :: insertMember key value rest

mutual

/-- The value with the members of each object sorted by key, the last of a repeated key. -/
def canonical : Json → Json
  | .array items => .array (canonicalItems items)
  | .object members => .object (canonicalMembers members)
  | value => value

def canonicalItems : List Json → List Json
  | [] => []
  | item :: rest => item.canonical :: canonicalItems rest

def canonicalMembers : List (String × Json) → List (String × Json)
  | [] => []
  | (key, value) :: rest => insertMember key value.canonical (canonicalMembers rest)

end

end Json

end Rollout
