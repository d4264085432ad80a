import NodeScaler.Text.Unshown

/-!
# Quoted text

A text in a message stands between double quotes, with quotes and backslashes behind a
backslash. The four usual controls have short names; any other character without a
glyph of its own is written by its number. An apostrophe is left alone.
-/

namespace NodeScaler.Text

/-- A code point in lower-case hexadecimal, without leading zeros. -/
def hexadecimal (value : Nat) : List Char := Nat.toDigits 16 value

/-- How one character stands between the quotes. -/
def quotedChar (c : Char) : List Char :=
  match c with
  | '\x00' => ['\\', '0']
  | '\t' => ['\\', 't']
  | '\r' => ['\\', 'r']
  | '\n' => ['\\', 'n']
  | '\\' => ['\\', '\\']
  | '"' => ['\\', '"']
  | _ =>
    if isUnshown c then ['\\', 'u', '\x7b'] ++ hexadecimal c.toNat ++ ['\x7d'] else [c]

/-- The text between double quotes. -/
def quoted (text : String) : String :=
  String.ofList ('"' :: text.toList.flatMap quotedChar ++ ['"'])

end NodeScaler.Text
