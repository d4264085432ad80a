/-!
# Decimal integers in text

An integer is written with an optional sign and one or more ASCII digits; leading
zeros are allowed, blanks, separators and other digits are not. A value outside the
bounds of its width is refused, never wrapped.
-/

namespace NodeScaler.Text

/-- One or more ASCII digits and nothing else. -/
def readDigits? (cs : List Char) : Option Nat :=
  if !cs.isEmpty && cs.all Char.isDigit then some (Nat.ofDigitChars 10 cs 0) else none

/-- An integer with an optional sign, of any size. -/
def readInteger? : List Char → Option Int
  | '+' :: digits => (readDigits? digits).map Int.ofNat
  | '-' :: digits => (readDigits? digits).map (fun value => -Int.ofNat value)
  | digits => (readDigits? digits).map Int.ofNat

/-- An integer of the signed width `bits`. -/
def readSigned? (bits : Nat) (cs : List Char) : Option Int :=
  let bound := Int.ofNat (Nat.pow 2 (bits - 1))
  (readInteger? cs).filter fun value => -bound ≤ value && value < bound

/-- A number of the unsigned width `bits`; a plus sign is allowed, a minus sign is not,
even before zero. -/
def readUnsigned? (bits : Nat) (cs : List Char) : Option Nat :=
  let digits := match cs with
    | '+' :: rest => rest
    | _ => cs
  (readDigits? digits).filter (· < Nat.pow 2 bits)

end NodeScaler.Text
