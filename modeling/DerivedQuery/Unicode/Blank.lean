/-!
# Blank characters

The property White_Space: the ASCII blanks and line ends, and the spaces and separators of the
higher planes. A zero-width space (U+200B) and a byte order mark (U+FEFF) are not blank.
-/

namespace DerivedQuery.Unicode

/-- Whether a character has the property White_Space. -/
def isBlank (c : Char) : Bool :=
  let n := c.toNat
  (0x09 ≤ n && n ≤ 0x0D) || n == 0x20 || n == 0x85 || n == 0xA0 || n == 0x1680 ||
    (0x2000 ≤ n && n ≤ 0x200A) || n == 0x2028 || n == 0x2029 || n == 0x202F || n == 0x205F ||
    n == 0x3000

/-- The text without the blanks at both of its ends. -/
def trimWhiteSpace (text : List Char) : List Char :=
  ((text.dropWhile isBlank).reverse.dropWhile isBlank).reverse

end DerivedQuery.Unicode
