import Rollout.Json.Basic
import Rollout.Text.Digits

/-!
# Decimal numbers

How a number literal becomes a number, and how a double is written. A literal without a fraction or
an exponent is an integer where 64 bits hold it. All others are doubles: the leading digits that fit
into 64 bits are scaled by a power of ten, with a rounding after each step. A double is written with
the fewest digits that read back, and of those the nearest.
-/

namespace Rollout

/-! ## Literals -/

structure NumberLiteral where
  negative : Bool
  whole : List Char
  fraction : Option (List Char)
  /-- Whether the exponent is negative, and its digits. -/
  exponent : Option (Bool × List Char)

namespace NumberLiteral

/-- The digits that a text starts with, if there are any, and what follows them. -/
def cutDigits? (s : List Char) : Option (List Char × List Char) :=
  match s.takeWhile Char.isDigit with
  | [] => none
  | digits => some (digits, s.dropWhile Char.isDigit)

/-- The whole part, in which only a single zero starts with one. -/
def cutWhole? (s : List Char) : Option (List Char × List Char) :=
  match cutDigits? s with
  | some ('0' :: _ :: _, _) => none
  | cut => cut

def cutFraction? : List Char → Option (Option (List Char) × List Char)
  | '.' :: rest => (cutDigits? rest).map fun (digits, rest) => (some digits, rest)
  | rest => some (none, rest)

def cutSign : List Char → Bool × List Char
  | '-' :: rest => (true, rest)
  | '+' :: rest => (false, rest)
  | rest => (false, rest)

def cutExponent? : List Char → Option (Option (Bool × List Char) × List Char)
  | [] => some (none, [])
  | c :: rest =>
    if c = 'e' || c = 'E' then
      let (negative, rest) := cutSign rest
      (cutDigits? rest).map fun (digits, rest) => (some (negative, digits), rest)
    else some (none, c :: rest)

/-- The literal that a text starts with, and what follows it. A part that has been begun has to be
complete. -/
def cut? (s : List Char) : Option (NumberLiteral × List Char) := do
  let (negative, s) := match s with
    | '-' :: rest => (true, rest)
    | s => (false, s)
  let (whole, s) ← cutWhole? s
  let (fraction, s) ← cutFraction? s
  let (exponent, s) ← cutExponent? s
  return (⟨negative, whole, fraction, exponent⟩, s)

end NumberLiteral

/-- Appends the digits that keep the number below 2^64, up to the first that does not; answers with
the digits that are left. -/
def appendDigits (n : Nat) : List Char → Nat × List Char
  | [] => (n, [])
  | c :: cs =>
    let next := n * 10 + (c.toNat - '0'.toNat)
    if next < UInt64.size then appendDigits next cs else (n, c :: cs)

/-- A double times a power of ten, in steps of at most 308 powers; none beyond the finite range. -/
def scaleByTen : (steps : Nat) → Float → Int → Option Float
  | 0, x, _ => some x
  | steps + 1, x, exponent =>
    if exponent.natAbs ≤ 308 then
      let power := Float.ofScientific 1 false exponent.natAbs
      if 0 ≤ exponent then
        let y := x * power
        if y.isInf then none else some y
      else some (x / power)
    else if x == 0 then some x
    else if 0 ≤ exponent then none
    else scaleByTen steps (x / Float.ofScientific 1 false 308) (exponent + 308)

namespace NumberLiteral

def double? (literal : NumberLiteral) : Option Number :=
  let (n, skipped) := appendDigits 0 literal.whole
  let fraction := literal.fraction.getD []
  let (n, left) := appendDigits n fraction
  let shift : Int := skipped.length - (fraction.length - left.length : Nat)
  let signed (x : Float) : Number := .float (if literal.negative then -x else x).toBits
  match literal.exponent with
  | none => (scaleByTen 4 (Float.ofNat n) shift).map signed
  | some (negative, digits) =>
    let e := Text.digitsValue digits
    if e < 0x80000000 then
      (scaleByTen 4 (Float.ofNat n) (if negative then shift - e else shift + e)).map signed
    else if n ≠ 0 && !negative then none
    else some (signed 0)

def number? (literal : NumberLiteral) : Option Number :=
  let n := Text.digitsValue literal.whole
  if literal.fraction.isNone && literal.exponent.isNone then
    if !literal.negative && n < UInt64.size then some (.int n)
    else if literal.negative && 0 < n && n ≤ 0x8000000000000000 then some (.int (-n))
    else literal.double?
  else literal.double?

end NumberLiteral

/-! ## The fewest digits that read back -/

/-- The sign among the bits of a double. -/
def signBit : Nat :=
  0x8000000000000000

/-- The first binary digit of most doubles, which is not stored. -/
def leadingBit : Nat :=
  0x10000000000000

/-- A positive double as `mantissa · 2^exponent`, and whether the next smaller one is only half as
far away as the next greater one. -/
def binaryParts (bits : UInt64) : Nat × Int × Bool :=
  let n := bits.toNat % signBit
  let fraction := n % leadingBit
  let biased : Nat := n / leadingBit
  if biased = 0 then (fraction, -1074, false)
  else (leadingBit + fraction, (biased : Int) - 1075, fraction = 0 && 1 < biased)

/-- The first of `count` digit counts from `digits` on at which a decimal lies among the numbers that
round to the double, with its exponent. All bounds are multiples of `1 / unit`. -/
def shortestFrom (low value high unit : Nat) (ends : Bool) (magnitude : Int) :
    (count digits : Nat) → Nat × Int
  | 0, _ => (0, 0)
  | count + 1, digits =>
    let exponent := magnitude - digits + 1
    -- One step of the grid is `step / unit`, after both sides are scaled.
    let (scale, step) :=
      if 0 ≤ exponent then (1, unit * Nat.pow 10 exponent.toNat)
      else (Nat.pow 10 (-exponent).toNat, unit)
    let below := value * scale / step
    let inside (d : Nat) : Bool :=
      let x := d * step
      if ends then low * scale ≤ x && x ≤ high * scale else low * scale < x && x < high * scale
    let lowGap := value * scale - below * step
    let highGap := (below + 1) * step - value * scale
    let nearer := lowGap < highGap || (lowGap = highGap && below % 2 = 0)
    if inside below && (!inside (below + 1) || nearer) then (below, exponent)
    else if inside (below + 1) then (below + 1, exponent)
    else shortestFrom low value high unit ends magnitude count (digits + 1)

def shortestDecimal (bits : UInt64) : Nat × Int :=
  let (m, e, narrow) := binaryParts bits
  let e := e - 2
  let (factor, unit) := if 0 ≤ e then (Nat.pow 2 e.toNat, 1) else (1, Nat.pow 2 (-e).toNat)
  let value := 4 * m * factor
  let magnitude : Int := (Nat.repr (value * Nat.pow 10 400 / unit)).length - 401
  shortestFrom ((4 * m - (if narrow then 1 else 2)) * factor) value ((4 * m + 2) * factor) unit
    (m % 2 = 0) magnitude 17 1

/-! ## Writing -/

/-- The text of `digits · 10^exponent`: positional with at least one decimal from 10^-5 up to 10^16,
with a signed exponent beyond. -/
def decimalText (digits : List Char) (exponent : Int) : List Char :=
  let point : Int := digits.length + exponent
  if 0 ≤ exponent && point ≤ 16 then
    digits ++ List.replicate exponent.toNat '0' ++ ['.', '0']
  else if 0 < point && point ≤ 16 then
    digits.take point.toNat ++ ['.'] ++ digits.drop point.toNat
  else if -5 < point && point ≤ 0 then
    ['0', '.'] ++ List.replicate (-point).toNat '0' ++ digits
  else
    let mantissa := match digits with
      | [] => []
      | [d] => [d]
      | d :: rest => d :: '.' :: rest
    mantissa ++ (if 0 < point then ['e', '+'] else ['e']) ++ (toString (point - 1)).toList

def doubleText (bits : UInt64) : String :=
  let sign := if bits.toNat < signBit then [] else ['-']
  if bits.toNat % signBit = 0 then String.ofList (sign ++ ['0', '.', '0'])
  else
    let (n, exponent) := shortestDecimal bits
    let all := (Nat.repr n).toList.reverse
    let digits := (all.dropWhile (· = '0')).reverse
    let zeros := (all.takeWhile (· = '0')).length
    String.ofList (sign ++ decimalText digits (exponent + zeros))

def Number.text : Number → String
  | .int n => toString n
  | .float bits => doubleText bits

end Rollout
