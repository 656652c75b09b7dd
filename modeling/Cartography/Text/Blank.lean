/-!
# Blank characters

Two sets of blanks: the white space of Unicode, and with it the four separators from U+001C to
U+001F, which part words but do not pad numbers.
-/

namespace Cartography.Text

/-- Whether a character is white space. -/
def isSpace (c : Char) : Bool :=
  let n := c.toNat
  (0x9 ≤ n && n ≤ 0xd) || n == 0x20 || n == 0x85 || n == 0xa0 || n == 0x1680 ||
    (0x2000 ≤ n && n ≤ 0x200a) || n == 0x2028 || n == 0x2029 || n == 0x202f || n == 0x205f ||
    n == 0x3000

/-- Whether a character is white space or one of the four separators. -/
def isBlank (c : Char) : Bool :=
  isSpace c || (0x1c ≤ c.toNat && c.toNat ≤ 0x1f)

theorem isBlank_of_isSpace {c : Char} (h : isSpace c) : isBlank c := by
  simp [isBlank, h]

/-- A text less the characters of a class at both its ends. -/
def trim (p : Char → Bool) (cs : List Char) : List Char :=
  ((cs.dropWhile p).reverse.dropWhile p).reverse

end Cartography.Text
