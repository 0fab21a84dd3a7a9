/-!
# Blank characters

The characters with the Unicode property `White_Space`, and trimming at the ends of a text.
Texts are lists of characters throughout; a `String` is taken apart only where one is stored.
-/

namespace Rollout.Text

/-- Whether a character has the property `White_Space`. -/
def isBlank (c : Char) : Bool :=
  let n := c.toNat
  n = 0x20 || (0x9 ≤ n && n ≤ 0xD) ||
    (0x85 ≤ n && (n = 0x85 || n = 0xA0 || n = 0x1680 || (0x2000 ≤ n && n ≤ 0x200A) ||
      n = 0x2028 || n = 0x2029 || n = 0x202F || n = 0x205F || n = 0x3000))

def trimStart (s : List Char) : List Char :=
  s.dropWhile isBlank

def trimEnd (s : List Char) : List Char :=
  (s.reverse.dropWhile isBlank).reverse

theorem isBlank_of_isWhitespace {c : Char} (h : c.isWhitespace = true) : isBlank c = true := by
  simp only [Char.isWhitespace, Bool.or_eq_true, decide_eq_true_eq] at h
  rcases h with ((rfl | rfl) | rfl) | rfl <;> rfl

end Rollout.Text
