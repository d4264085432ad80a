/-!
# Percent encoding

Characters that may not stand as they are in a part of an address are written byte by byte
in UTF-8, each byte as a percent sign and two upper-case hexadecimal digits. The value of a
query field is written more strictly: everything but ASCII letters, digits and four marks is
encoded, and a space becomes a plus sign.
-/

namespace NodeScaler.Percent

/-- The digit of a value below sixteen. -/
def digit (value : Nat) : Char :=
  if value < 10 then Char.ofNat ('0'.toNat + value) else Char.ofNat ('A'.toNat + (value - 10))

/-- The value of a hexadecimal digit. -/
def value? (c : Char) : Option Nat :=
  if '0' ≤ c ∧ c ≤ '9' then some (c.toNat - '0'.toNat)
  else if 'a' ≤ c ∧ c ≤ 'f' then some (c.toNat - 'a'.toNat + 10)
  else if 'A' ≤ c ∧ c ≤ 'F' then some (c.toNat - 'A'.toNat + 10)
  else none

/-- An encoded byte. -/
def byte (b : UInt8) : List Char := ['%', digit (b.toNat / 16), digit (b.toNat % 16)]

/-- An encoded character. -/
def char (c : Char) : List Char := (String.utf8EncodeChar c).flatMap byte

/-- Encodes all characters but the plain ones. -/
def encode (plain : Char → Bool) (cs : List Char) : List Char :=
  cs.flatMap fun c => if plain c then [c] else char c

/-- The bytes that a text stands for. A percent sign without two digits after it stands for
itself. -/
def decode : List Char → List UInt8
  | [] => []
  | '%' :: high :: low :: rest =>
    match value? high, value? low with
    | some high, some low => UInt8.ofNat (high * 16 + low) :: decode rest
    | _, _ => '%'.toUInt8 :: decode (high :: low :: rest)
  | c :: rest => String.utf8EncodeChar c ++ decode rest

/-- The text that an encoded text stands for, if its bytes are UTF-8. -/
def decodedText? (cs : List Char) : Option String := String.fromUTF8? ⟨(decode cs).toArray⟩

/-- The character may stand in the value of a query field as it is. -/
def isPlainInField (c : Char) : Bool :=
  c.isAlphanum || c == '*' || c == '-' || c == '.' || c == '_'

/-- The value of a query field. -/
def field (text : String) : List Char :=
  text.toList.flatMap fun c => if c = ' ' then ['+'] else if isPlainInField c then [c] else char c

/-- The fields of a query, joined. -/
def fields (pairs : List (String × String)) : List Char :=
  ['&'].intercalate (pairs.map fun (name, value) => field name ++ '=' :: field value)

end NodeScaler.Percent
