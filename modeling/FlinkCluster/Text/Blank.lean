/-!
# Blank characters

The characters that count as white space: the Unicode property `White_Space` and the four
information separators U+001C to U+001F. `strip` removes them from both ends of a text. The
narrower `isSpace` has the six ASCII ones that a number reader skips.
-/

set_option autoImplicit false

namespace FlinkCluster.Text

/-- The code points of the blank characters in ascending order. -/
def blankCodes : List Nat :=
  [0x9, 0xA, 0xB, 0xC, 0xD, 0x1C, 0x1D, 0x1E, 0x1F, 0x20,
   0x85, 0xA0, 0x1680, 0x2000, 0x2001, 0x2002, 0x2003, 0x2004, 0x2005, 0x2006,
   0x2007, 0x2008, 0x2009, 0x200A, 0x2028, 0x2029, 0x202F, 0x205F, 0x3000]

/-- Whether `c` is blank. -/
def isBlank (c : Char) : Bool := blankCodes.contains c.toNat

/-- Whether `c` is one of the six ASCII spaces: tab, the four line and page ends, and space. -/
def isSpace (c : Char) : Bool := c == ' ' || (0x09 ≤ c.toNat && c.toNat ≤ 0x0D)

/-- Removes the characters of the class `p` from both ends. -/
def stripChars (p : Char → Bool) (cs : List Char) : List Char :=
  ((cs.dropWhile p).reverse.dropWhile p).reverse

/-- Removes the blank characters from both ends. -/
def strip (s : String) : String := String.ofList (stripChars isBlank s.toList)

/-! ## Members -/

example : blankCodes.length = 29 := by decide

/-- Zero width space and byte order mark are no blanks. -/
example : isBlank (Char.ofNat 0x200B) = false ∧ isBlank (Char.ofNat 0xFEFF) = false := by decide

end FlinkCluster.Text
