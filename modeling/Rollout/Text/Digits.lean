/-!
# Digits

The value of a row of decimal digits, and the integers that 64 bits hold.
-/

namespace Rollout.Text

def readDigits (n : Nat) (digits : List Char) : Nat :=
  digits.foldl (fun n c => n * 10 + (c.toNat - '0'.toNat)) n

def digitsValue (digits : List Char) : Nat :=
  readDigits 0 digits

/-- Whether an integer is one of 64 bits with a sign. -/
def isInt64 (n : Int) : Bool :=
  -0x8000000000000000 ≤ n && n < 0x8000000000000000

theorem readDigits_append (n : Nat) (s t : List Char) :
    readDigits n (s ++ t) = readDigits (readDigits n s) t := by
  simp [readDigits]

end Rollout.Text
