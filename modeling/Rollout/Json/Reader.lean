import Rollout.Json.Decimal
import Rollout.Json.Written
import Rollout.Text.Search

/-!
# Reading JSON

A text is cut into tokens by a machine that sees one character at a time, and the tokens are put
together by a machine that keeps the arrays and objects it is inside of. Both answer for any text:
where it stops being a value, what is written there is broken.
-/

namespace Rollout.Json

/-! ## Tokens -/

inductive Token where
  | openArray
  | closeArray
  | openObject
  | closeObject
  | comma
  | colon
  /-- A value that is neither an array, an object nor a text. -/
  | scalar (value : Written)
  /-- A text, none if half of a pair stands alone in it. -/
  | string (value : Option String)
  /-- What cannot be cut into tokens. -/
  | broken

/-- What the characters read so far have begun. Characters seen are kept in reverse; of a text none
are kept behind half of a pair that stands alone. -/
inductive Mode where
  | between
  | word (seen : List Char)
  | text (seen : Option (List Char))
  /-- Behind a backslash; `high` is the first half of a pair whose second half has to follow. -/
  | escape (seen : Option (List Char)) (high : Option Nat)
  /-- Inside the four hexadecimal digits of an escape. -/
  | unit (seen : Option (List Char)) (high : Option Nat) (count value : Nat)
  /-- Behind the first half of a pair. -/
  | pair (seen : Option (List Char)) (high : Nat)

/-- A word that stands for a value, if a text starts with it, and what follows it. -/
def cutKeyword? (word : String) (value : Written) (s : List Char) : Option (Written × List Char) :=
  (Text.strip? word.toList s).map fun rest => (value, rest)

def cutScalar? (s : List Char) : Option (Written × List Char) :=
  (cutKeyword? "null" .null s)
    |>.or (cutKeyword? "true" (.bool true) s)
    |>.or (cutKeyword? "false" (.bool false) s)
    |>.or ((NumberLiteral.cut? s).map fun (literal, rest) => (.number literal.number?, rest))

/-- The value at the start of a word. What follows it there is no token. -/
def wordTokens (word : List Char) : List Token :=
  match cutScalar? word with
  | none => [.broken]
  | some (value, []) => [.scalar value]
  | some (value, _ :: _) => [.scalar value, .broken]

def punctuation? : Char → Option Token
  | '[' => some .openArray
  | ']' => some .closeArray
  | '\x7b' => some .openObject
  | '\x7d' => some .closeObject
  | ',' => some .comma
  | ':' => some .colon
  | _ => none

def isSpace (c : Char) : Bool :=
  c = ' ' || c = '\n' || c = '\t' || c = '\r'

def hexValue? (c : Char) : Option Nat :=
  if c.isDigit then some (c.toNat - '0'.toNat)
  else if 'a' ≤ c ∧ c ≤ 'f' then some (c.toNat - 'a'.toNat + 10)
  else if 'A' ≤ c ∧ c ≤ 'F' then some (c.toNat - 'A'.toNat + 10)
  else none

def simpleEscape? : Char → Option Char
  | '"' => some '"'
  | '\\' => some '\\'
  | '/' => some '/'
  | 'b' => some '\x08'
  | 'f' => some '\x0c'
  | 'n' => some '\n'
  | 'r' => some '\r'
  | 't' => some '\t'
  | _ => none

def Mode.see (seen : Option (List Char)) (c : Char) : Mode :=
  .text (seen.map (c :: ·))

/-- What follows the last digit of an escape: a character, or the wait for the second half of a
pair. Halves of pairs stand for nothing alone. -/
def Mode.ofUnit (seen : Option (List Char)) (high : Option Nat) (value : Nat) : Mode :=
  match high with
  | none =>
    if 0xD800 ≤ value ∧ value < 0xDC00 then .pair seen value
    else if 0xDC00 ≤ value ∧ value < 0xE000 then .text none
    else .see seen (Char.ofNat value)
  | some first =>
    if 0xDC00 ≤ value ∧ value < 0xE000 then
      .see seen (Char.ofNat (0x10000 + (first - 0xD800) * 0x400 + (value - 0xDC00)))
    else .text none

def startToken (c : Char) : List Token × Mode :=
  if isSpace c then ([], .between)
  else if c = '"' then ([], .text (some []))
  else
    match punctuation? c with
    | some token => ([token], .between)
    | none => ([], .word [c])

def endsWord (c : Char) : Bool :=
  isSpace c || c = '"' || (punctuation? c).isSome

def stepText (seen : Option (List Char)) (c : Char) : Option (List Token × Mode) :=
  if c = '"' then some ([.string (seen.map (String.ofList ·.reverse))], .between)
  else if c = '\\' then some ([], .escape seen none)
  else if c.toNat < 0x20 then none
  else some ([], .see seen c)

def Mode.step (mode : Mode) (c : Char) : Option (List Token × Mode) :=
  match mode with
  | .between => some (startToken c)
  | .word seen =>
    if endsWord c then
      let (tokens, mode) := startToken c
      some (wordTokens seen.reverse ++ tokens, mode)
    else some ([], .word (c :: seen))
  | .text seen => stepText seen c
  | .escape seen high =>
    if c = 'u' then some ([], .unit seen high 0 0)
    else (simpleEscape? c).map fun d => ([], .see (if high.isSome then none else seen) d)
  | .unit seen high count value => do
    let digit ← hexValue? c
    let value := value * 16 + digit
    some ([], if count < 3 then .unit seen high (count + 1) value else .ofUnit seen high value)
  | .pair seen high => if c = '\\' then some ([], .escape seen (some high)) else stepText none c

def tokensFrom : Mode → List Char → List Token
  | .between, [] => []
  | .word seen, [] => wordTokens seen.reverse
  | _, [] => [.broken]
  | mode, c :: cs =>
    match mode.step c with
    | none => [.broken]
    | some (tokens, mode) => tokens ++ tokensFrom mode cs

/-! ## Values -/

/-- An array or an object that is not closed yet, with its parts in reverse; in an object, the key
whose value comes next. -/
inductive Frame where
  | array (items : List Written)
  | object (members : List (Option String × Written)) (key : Option String)

/-- What has to come next. Right behind an opening bracket, that may be the closing one instead. -/
inductive Expected where
  | value
  | key (members : List (Option String × Written))
  | colon (members : List (Option String × Written)) (key : Option String)
  /-- Behind a complete value. -/
  | separator (value : Written)

/-- What the open frames, innermost first, become around a last part. -/
def enclose : List Frame → Written → Written
  | [], part => part
  | .array items :: frames, part => enclose frames (.array (part :: items).reverse)
  | .object members key :: frames, part => enclose frames (.object ((key, part) :: members).reverse)

/-- What is written when something else comes than what has to. -/
def breakOff : List Frame → Expected → Written
  | frames, .value => enclose frames .broken
  | frames, .key members => enclose frames (.object ((none, .broken) :: members).reverse)
  | frames, .colon members key => enclose frames (.object ((key, .broken) :: members).reverse)
  | [], .separator v => v
  | .array items :: frames, .separator v => enclose frames (.array (.broken :: v :: items).reverse)
  | .object members key :: frames, .separator v =>
    enclose frames (.object ((none, .broken) :: (key, v) :: members).reverse)

/-- What the tokens write inside the open frames, and the tokens that follow it. -/
def build : List Frame → Expected → List Token → Written × List Token
  | [], .separator v, rest => (v, rest)
  | frames, .value, .scalar v :: rest => build frames (.separator v) rest
  | frames, .value, .string s :: rest => build frames (.separator (.string s)) rest
  | frames, .value, .openArray :: rest => build (.array [] :: frames) .value rest
  | frames, .value, .openObject :: rest => build frames (.key []) rest
  | .array [] :: frames, .value, .closeArray :: rest => build frames (.separator (.array [])) rest
  | frames, .key [], .closeObject :: rest => build frames (.separator (.object [])) rest
  | frames, .key members, .string key :: rest => build frames (.colon members key) rest
  | frames, .colon members key, .colon :: rest => build (.object members key :: frames) .value rest
  | .array items :: frames, .separator v, .comma :: rest =>
    build (.array (v :: items) :: frames) .value rest
  | .array items :: frames, .separator v, .closeArray :: rest =>
    build frames (.separator (.array (v :: items).reverse)) rest
  | .object members key :: frames, .separator v, .comma :: rest =>
    build frames (.key ((key, v) :: members)) rest
  | .object members key :: frames, .separator v, .closeObject :: rest =>
    build frames (.separator (.object ((key, v) :: members).reverse)) rest
  | frames, expected, rest => (breakOff frames expected, rest)

/-- What a text writes, and the tokens that follow it. -/
def Written.read (text : String) : Written × List Token :=
  build [] .value (tokensFrom .between text.toList)

/-- The value that a text is, if it is exactly one. -/
def read? (text : String) : Option Json :=
  match Written.read text with
  | (written, []) => written.value?
  | _ => none

end Rollout.Json
