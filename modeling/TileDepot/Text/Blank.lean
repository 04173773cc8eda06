/-!
# Blank characters

Two sets of blank characters are in use.  `isWhite` is the Unicode property of white space; numbers
in request paths are trimmed by it.  `isBlank` adds the four information separators, which count as
blank where a setting is trimmed.

* `isBlank_of_isWhite` says that the second set contains the first.
* `isWhite_of_isWhitespace` says that both contain the blank characters of ASCII.
-/

namespace TileDepot.Text

/-- White space in the sense of the Unicode property. -/
def isWhite (c : Char) : Bool :=
  let n := c.toNat
  (9 ≤ n && n ≤ 13) || n == 0x20 || n == 0x85 || n == 0xa0 || n == 0x1680 ||
    (0x2000 ≤ n && n ≤ 0x200a) || n == 0x2028 || n == 0x2029 || n == 0x202f || n == 0x205f ||
    n == 0x3000

/-- White space and the information separators U+001C to U+001F. -/
def isBlank (c : Char) : Bool := isWhite c || (0x1c ≤ c.toNat && c.toNat ≤ 0x1f)

/-- A list of characters without the leading and trailing ones that satisfy the test. -/
def trimList (p : Char → Bool) (cs : List Char) : List Char :=
  ((cs.dropWhile p).reverse.dropWhile p).reverse

theorem isBlank_of_isWhite {c : Char} (h : isWhite c = true) : isBlank c = true := by
  simp [isBlank, h]

theorem isWhite_of_isWhitespace {c : Char} (h : c.isWhitespace = true) : isWhite c = true := by
  simp only [Char.isWhitespace, Bool.or_eq_true, decide_eq_true_eq] at h
  rcases h with ((h | h) | h) | h <;> subst h <;> decide

end TileDepot.Text
