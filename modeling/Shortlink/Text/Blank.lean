/-!
# Blanks

The characters that count as white space, and the removal of those at the ends of a text.
-/

namespace Shortlink.Text

/-- White space as the Unicode property of that name has it. -/
def isBlank (c : Char) : Bool :=
  let n := c.toNat
  (0x09 ≤ n && n ≤ 0x0D) || n == 0x20 || n == 0x85 || n == 0xA0 || n == 0x1680 ||
    (0x2000 ≤ n && n ≤ 0x200A) || n == 0x2028 || n == 0x2029 || n == 0x202F ||
    n == 0x205F || n == 0x3000

/-- Drops the leading characters in a class. -/
def dropLeading (inClass : Char → Bool) (text : List Char) : List Char :=
  text.dropWhile inClass

/-- Drops the trailing characters in a class. -/
def dropTrailing (inClass : Char → Bool) (text : List Char) : List Char :=
  (text.reverse.dropWhile inClass).reverse

/-- Drops the leading blanks. -/
def trimLeading (text : List Char) : List Char := dropLeading isBlank text

/-- Drops the blanks at both ends. -/
def trim (text : List Char) : List Char := dropTrailing isBlank (trimLeading text)

end Shortlink.Text
