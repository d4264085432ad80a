import NodeScaler.Toml.Reader

/-!
# Blanks, line ends and comments

Blanks are spaces and tabs. A line ends with a line feed, or with a carriage return and a
line feed; a carriage return by itself ends nothing. A comment runs to the end of its
line and holds no control character except tabs.
-/

namespace NodeScaler.Toml

open Reader

/-- A space or a tab. -/
def isSpace (c : Char) : Bool := c == ' ' || c == '\t'

/-- A character that may stand in a text or a comment as it is: no control character
except the tab. -/
def isPlain (c : Char) : Bool := c == '\t' || (' ' ≤ c && c != '\x7f')

/-- Blanks, possibly none. -/
def spaces : Reader Unit := discard (run isSpace)

/-- The end of a line that has one. -/
def newline : Reader Unit := char '\n' <|> word ['\r', '\n']

/-- A comment, without the end of its line. -/
def comment : Reader Unit := char '#' <* run isPlain

/-- What may follow a header or a setting on its line, and the end of the line or of the
document. -/
def lineEnd : Reader Unit := do
  spaces
  let _ ← optional comment
  newline <|> finish

/-- What may stand around the elements of an array: blanks, line ends and comments. -/
def filler : Reader Unit :=
  discard (many (discard (run1 isSpace) <|> newline <|> (comment *> newline)))

end NodeScaler.Toml
