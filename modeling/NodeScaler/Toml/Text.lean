import NodeScaler.Toml.Lexeme

/-!
# Texts

A text stands between quotation marks, with escapes, or between apostrophes, as it is.
Three marks in a row open and close a text of several lines: a line end right after the
opening is dropped, every other one counts as a line feed, and up to two marks may stand
in front of the closing. A backslash at the end of a line joins the lines: it, the line
end and all blanks and line ends after it are dropped.
-/

namespace NodeScaler.Toml

open Reader

/-- An ASCII digit or a letter from A to F in either case. -/
def isHexDigit (c : Char) : Bool :=
  c.isDigit || ('a' ≤ c && c ≤ 'f') || ('A' ≤ c && c ≤ 'F')

/-- The value of a digit of any base up to sixteen. -/
def digitValue (c : Char) : Nat :=
  if c.isDigit then c.toNat - '0'.toNat else c.toLower.toNat - 'a'.toNat + 10

/-- The number that digits stand for. -/
def digitsValue (base : Nat) (digits : List Char) : Nat :=
  digits.foldl (fun value digit => value * base + digitValue digit) 0

/-- A character given by the number of its code point; surrogates are none. -/
def numberedChar (digits : Nat) : Reader Char := do
  let point := digitsValue 16 (← exactly digits isHexDigit)
  if point.isValidChar then return Char.ofNat point else failure

/-- The character that an escape stands for, read after the backslash. -/
def escape : Reader Char := do
  match ← satisfy fun _ => true with
  | 'b' => return '\x08'
  | 't' => return '\t'
  | 'n' => return '\n'
  | 'f' => return '\x0c'
  | 'r' => return '\r'
  | '"' => return '"'
  | '\\' => return '\\'
  | 'u' => numberedChar 4
  | 'U' => numberedChar 8
  | _ => failure

/-- A text on one line between quotation marks. -/
def quotedLine : Reader (List Char) :=
  char '"' *> many (satisfy (fun c => isPlain c && c != '"' && c != '\\') <|>
    (char '\\' *> escape)) <* char '"'

/-- A text on one line between apostrophes. -/
def literalLine : Reader (List Char) :=
  char '\'' *> run (fun c => isPlain c && c != '\'') <* char '\''

/-- A row of one or two marks that does not close the text. -/
def innerMarks (mark : Char) : Reader (List Char) := do
  let marks ← run1 (· == mark)
  if marks.length ≤ 2 then return marks else failure

/-- The row of marks that closes a text of several lines, with the marks in front of the
last three; those belong to the text. -/
def closingMarks (mark : Char) : Reader (List Char) := fun cs =>
  let row := (cs.takeWhile (· == mark)).take 5
  if 3 ≤ row.length then some (row.drop 3, cs.drop row.length) else none

/-- A text of several lines whose pieces are read by `piece`, between rows of three marks. -/
def blockText (mark : Char) (piece : Reader (List Char)) : Reader (List Char) := do
  word [mark, mark, mark]
  let _ ← optional newline
  let pieces ← many (piece <|> (newline *> return ['\n']) <|> innerMarks mark)
  let atEnd ← closingMarks mark
  return pieces.flatten ++ atEnd

/-- A backslash that joins lines, with all that it drops. -/
def joinedLines : Reader (List Char) := do
  char '\\'
  spaces
  newline
  let _ ← many (discard (satisfy isSpace) <|> newline)
  return []

/-- A text of several lines between quotation marks. -/
def quotedBlock : Reader (List Char) :=
  blockText '"' (run1 (fun c => isPlain c && c != '"' && c != '\\') <|> joinedLines <|>
    (do char '\\'; return [← escape]))

/-- A text of several lines between apostrophes. -/
def literalBlock : Reader (List Char) :=
  blockText '\'' (run1 fun c => isPlain c && c != '\'')

/-- A text in any of its four forms. -/
def text : Reader String :=
  String.ofList <$> (quotedBlock <|> literalBlock <|> quotedLine <|> literalLine)

end NodeScaler.Toml
