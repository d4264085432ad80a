/-!
# Blank characters

Names, sizes and settings are read with the blanks around them taken off. A blank
is a character with the Unicode property White_Space; a zero-width space or a byte
order mark is none. Only the two ends are trimmed, so blanks inside a text remain.
-/

namespace NodeScaler.Text

/-- The property White_Space: the ASCII controls from tab to carriage return, the
space, and the wider spaces and separators of the other blocks. -/
def isBlank (c : Char) : Bool :=
  let point := c.toNat
  (9 ≤ point && point ≤ 13) || point == 0x20 || point == 0x85 || point == 0xA0 ||
    point == 0x1680 || (0x2000 ≤ point && point ≤ 0x200A) || point == 0x2028 ||
    point == 0x2029 || point == 0x202F || point == 0x205F || point == 0x3000

/-- Drops the blanks at both ends. -/
def trimBlanks (cs : List Char) : List Char :=
  ((cs.dropWhile isBlank).reverse.dropWhile isBlank).reverse

/-- The text without the blanks at its ends. -/
def trim (text : String) : String := String.ofList (trimBlanks text.toList)

/-- The trimmed text, unless nothing remains of it. -/
def nonBlank? (text : String) : Option String :=
  if trim text = "" then none else some (trim text)

end NodeScaler.Text
