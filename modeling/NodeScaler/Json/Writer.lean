import NodeScaler.Json.Value

/-!
# Writing JSON

The compact form has no blanks. The indented form puts every element and field on a line
of its own, two spaces deeper than its array or object; an empty array or object stays on
one line. In a text only quotes, backslashes and control characters below the space are
escaped, the usual ones by a letter and the others by their number.
-/

namespace NodeScaler.Json

/-- The hexadecimal digit of a value below sixteen. -/
def hexDigit (value : Nat) : Char :=
  if value < 10 then Char.ofNat ('0'.toNat + value) else Char.ofNat ('a'.toNat + (value - 10))

/-- How a character stands in a text. -/
def escaped (c : Char) : List Char :=
  if c = '"' then ['\\', '"']
  else if c = '\\' then ['\\', '\\']
  else if c = '\n' then ['\\', 'n']
  else if c = '\r' then ['\\', 'r']
  else if c = '\t' then ['\\', 't']
  else if c = '\x08' then ['\\', 'b']
  else if c = '\x0c' then ['\\', 'f']
  else if c.toNat < 32 then
    ['\\', 'u', '0', '0', hexDigit (c.toNat / 16), hexDigit (c.toNat % 16)]
  else [c]

/-- A text between its quotes. A text that stands for no characters is written as one
unpaired surrogate. -/
def writeText : Option String → List Char
  | some text => '"' :: text.toList.flatMap escaped ++ ['"']
  | none => ['"', '\\', 'u', 'd', '8', '0', '0', '"']

/-- A truth value. -/
def writeBool : Bool → List Char
  | true => ['t', 'r', 'u', 'e']
  | false => ['f', 'a', 'l', 's', 'e']

mutual

/-- A value in compact form. -/
def write : Value → List Char
  | .null => ['n', 'u', 'l', 'l']
  | .boolean value => writeBool value
  | .number written => written
  | .string value => writeText value
  | .array elements => '[' :: writeElements elements ++ [']']
  | .object fields => '\x7b' :: writeFields fields ++ ['\x7d']

/-- The elements of an array, with commas between them. -/
def writeElements : List Value → List Char
  | [] => []
  | [element] => write element
  | element :: rest => write element ++ ',' :: writeElements rest

/-- The fields of an object, with commas between them. -/
def writeFields : List (Option String × Value) → List Char
  | [] => []
  | [(name, value)] => writeText name ++ ':' :: write value
  | (name, value) :: rest => writeText name ++ ':' :: write value ++ ',' :: writeFields rest

end

/-- The start of a line at a depth. -/
def indentation (depth : Nat) : List Char := '\n' :: List.replicate (2 * depth) ' '

mutual

/-- A value in indented form, with its first line at the given depth. -/
def indented (depth : Nat) : Value → List Char
  | .array (element :: rest) =>
    '[' :: indentedElements (depth + 1) (element :: rest) ++ indentation depth ++ [']']
  | .object (field :: rest) =>
    '\x7b' :: indentedFields (depth + 1) (field :: rest) ++ indentation depth ++ ['\x7d']
  | .array [] => ['[', ']']
  | .object [] => ['\x7b', '\x7d']
  | .null => ['n', 'u', 'l', 'l']
  | .boolean value => writeBool value
  | .number written => written
  | .string value => writeText value

/-- The elements of an array, each on a line of its own. -/
def indentedElements (depth : Nat) : List Value → List Char
  | [] => []
  | [element] => indentation depth ++ indented depth element
  | element :: rest =>
    indentation depth ++ indented depth element ++ ',' :: indentedElements depth rest

/-- The fields of an object, each on a line of its own. -/
def indentedFields (depth : Nat) : List (Option String × Value) → List Char
  | [] => []
  | [(name, value)] =>
    indentation depth ++ writeText name ++ ':' :: ' ' :: indented depth value
  | (name, value) :: rest =>
    indentation depth ++ writeText name ++ ':' :: ' ' :: indented depth value ++
      ',' :: indentedFields depth rest

end

/-- The compact text of a value. -/
def Value.text (value : Value) : String := String.ofList (write value)

/-- The indented text of a value. -/
def Value.indentedText (value : Value) : String := String.ofList (indented 0 value)

end NodeScaler.Json
