import NodeScaler.Toml.Text

/-!
# Numbers

An integer has 64 bits. It is written in decimal, with an optional sign and no leading
zeros, or without a sign in base 16, 8 or 2 behind `0x`, `0o` or `0b`. A float is a
decimal integer with a fraction, an exponent or both, or one of the names `inf` and
`nan`. Single underscores may stand between digits. No setting is a float, so its value
is not kept; only a float too large for a finite value is refused, and this on the
positive side alone.
-/

namespace NodeScaler.Toml

open Reader

/-- Digits with single underscores between them. The result holds the digits only. -/
def digitGroups (isDigit : Char → Bool) : Reader (List Char) := do
  let first ← satisfy isDigit
  let rest ← many (satisfy isDigit <|> (char '_' *> satisfy isDigit))
  return first :: rest

/-- A sign, if there is one: whether the number is negative. -/
def sign : Reader Bool := (char '-' *> return true) <|> (char '+' *> return false) <|> return false

/-- A decimal integer: whether it is negative, and its digits. -/
def decimal : Reader (Bool × List Char) := do
  let negative ← sign
  if (← peek) == some '0' then
    char '0'
    return (negative, ['0'])
  else
    return (negative, ← digitGroups Char.isDigit)

/-- An integer within the bounds of 64 bits. -/
def within64Bits (value : Int) : Reader Int :=
  let bound := Int.ofNat (Nat.pow 2 63)
  if -bound ≤ value ∧ value < bound then return value else failure

/-- An integer in a base of its own. -/
def basedInteger (mark : Char) (base : Nat) (isDigit : Char → Bool) : Reader Int := do
  word ['0', mark]
  within64Bits (digitsValue base (← digitGroups isDigit))

/-- An integer in decimal. -/
def decimalInteger : Reader Int := do
  let (negative, digits) ← decimal
  let size := Int.ofNat (digitsValue 10 digits)
  within64Bits (if negative then -size else size)

/-- An integer in any of its forms. -/
def integer : Reader Int :=
  basedInteger 'x' 16 isHexDigit <|>
  basedInteger 'o' 8 (fun c => '0' ≤ c && c ≤ '7') <|>
  basedInteger 'b' 2 (fun c => c == '0' || c == '1') <|>
  decimalInteger

/-- The least value that a binary float of 64 bits rounds to infinity, half a unit in the
last place above the greatest finite value. -/
def infinityBound : Nat := Nat.pow 2 1024 - Nat.pow 2 970

/-- The number `digits * 10 ^ exponent` is too large for a finite float. Powers beyond
the number of digits that the bound has are decided without computing them. -/
def overflows (digits : List Char) (exponent : Int) : Bool :=
  let significant := digits.dropWhile (· == '0')
  let magnitude := Int.ofNat significant.length + exponent
  if significant.isEmpty || magnitude < 309 then false
  else if 309 < magnitude then true
  else if 0 ≤ exponent then infinityBound ≤ digitsValue 10 significant * Nat.pow 10 exponent.toNat
  else infinityBound * Nat.pow 10 (-exponent).toNat ≤ digitsValue 10 significant

/-- The digits of a fraction, read from its point on. -/
def fraction : Reader (List Char) := char '.' *> digitGroups Char.isDigit

/-- An exponent with its letter. -/
def exponent : Reader Int := do
  let _ ← satisfy fun c => c == 'e' || c == 'E'
  let negative ← sign
  let size := Int.ofNat (digitsValue 10 (← digitGroups Char.isDigit))
  return if negative then -size else size

/-- A float written with digits: it has a fraction, an exponent or both. -/
def digitFloat : Reader Unit := do
  let (negative, whole) ← decimal
  let places ← optional fraction
  let power ← optional exponent
  if places.isNone && power.isNone then failure
  let shown := places.getD []
  if !negative && overflows (whole ++ shown) (power.getD 0 - shown.length) then failure

/-- An infinity or no number, with an optional sign. -/
def namedFloat : Reader Unit := sign *> (word ['i', 'n', 'f'] <|> word ['n', 'a', 'n'])

/-- A float in any of its forms. -/
def float : Reader Unit := digitFloat <|> namedFloat

end NodeScaler.Toml
