/-!
# Blank characters

A character is blank when it has the Unicode `White_Space` property. Trimming takes blank characters
off both ends of a text and leaves the rest alone.
-/

namespace Campus.Text

/-- The `White_Space` property: the ASCII controls from tab to carriage return, the spaces, and the
line and paragraph separators. -/
def isBlank (c : Char) : Bool :=
  let n := c.toNat
  (0x9 ≤ n && n ≤ 0xD) || n == 0x20 || n == 0x85 || n == 0xA0 || n == 0x1680 ||
    (0x2000 ≤ n && n ≤ 0x200A) || n == 0x2028 || n == 0x2029 || n == 0x202F || n == 0x205F ||
    n == 0x3000

/-- Drop the characters at the end that satisfy a condition. -/
def dropTail (drop : Char → Bool) (chars : List Char) : List Char :=
  (chars.reverse.dropWhile drop).reverse

/-- The characters between the first and the last one that is not blank. -/
def trimChars (chars : List Char) : List Char := dropTail isBlank (chars.dropWhile isBlank)

/-- A text without the blank characters at its ends. -/
def trim (text : String) : String := String.ofList (trimChars text.toList)

end Campus.Text
