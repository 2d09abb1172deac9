import FlinkCluster.Text.Printable

/-!
# Quoted text

The written form of a text inside a message: apostrophes around it, or quotation marks when it
holds an apostrophe and no quotation mark. The mark and the backslash are escaped, line feed,
carriage return and tab have letters, and every other character that is not printable is written
by its code in two, four or eight hexadecimal digits.
-/

set_option autoImplicit false

namespace FlinkCluster.Text

/-- The mark `'`. -/
def apostrophe : Char := Char.ofNat 0x27

/-- The mark `"`. -/
def quotationMark : Char := Char.ofNat 0x22

/-- The hexadecimal digits of `n` in lower case, the last `width` of them. -/
def hexDigits : Nat → Nat → List Char
  | 0, _ => []
  | width + 1, n => hexDigits width (n / 16) ++ [Nat.digitChar (n % 16)]

/-- The mark that surrounds the text `cs`. -/
def markFor (cs : List Char) : Char :=
  if cs.contains apostrophe && !cs.contains quotationMark then quotationMark else apostrophe

/-- One character between the marks. -/
def escapeChar (mark c : Char) : List Char :=
  if c = mark ∨ c = '\\' then ['\\', c]
  else if c = '\n' then ['\\', 'n']
  else if c = '\r' then ['\\', 'r']
  else if c = '\t' then ['\\', 't']
  else if isPrintable c then [c]
  else if c.toNat < 0x100 then ['\\', 'x'] ++ hexDigits 2 c.toNat
  else if c.toNat < 0x10000 then ['\\', 'u'] ++ hexDigits 4 c.toNat
  else ['\\', 'U'] ++ hexDigits 8 c.toNat

/-- The text between its marks. -/
def quoted (s : String) : String :=
  let cs := s.toList
  let mark := markFor cs
  String.ofList (mark :: cs.flatMap (escapeChar mark) ++ [mark])

end FlinkCluster.Text
