/-!
# Punycode

Names are sent in ASCII. A label with other characters is written as its ASCII characters,
a hyphen behind them if there are any, and the other characters in ascending order, each by
the number of steps from the one before. A step goes on by one place in the label, and at
the end of the label to the next code point. The numbers have digits of base 36, the lowest
first; a digit below the threshold of its place ends a number, and the thresholds follow the
size of the numbers before.
-/

namespace NodeScaler.Domain.Punycode

/-- The digit of a value below 36. -/
def digit (value : Nat) : Char :=
  if value < 26 then Char.ofNat ('a'.toNat + value) else Char.ofNat ('0'.toNat + (value - 26))

/-- The value of a digit. -/
def value? (c : Char) : Option Nat :=
  if 'a' ≤ c ∧ c ≤ 'z' then some (c.toNat - 'a'.toNat)
  else if '0' ≤ c ∧ c ≤ '9' then some (c.toNat - '0'.toNat + 26)
  else none

/-- The threshold at a place, which is a multiple of 36: from 1 to 26. -/
def threshold (bias place : Nat) : Nat := min 26 (max 1 (place - bias))

/-- Brings a number down to 455 at most, counting 36 for each step. -/
def settle (delta steps : Nat) : Nat × Nat :=
  if 455 < delta then settle (delta / 35) (steps + 36) else (delta, steps)
termination_by delta
decreasing_by omega

/-- The bias after a number, when the label has so many characters; the first number is
taken to be far too large. -/
def adapt (delta size : Nat) (isFirst : Bool) : Nat :=
  let scaled := if isFirst then delta / 700 else delta / 2
  let (rest, steps) := settle (scaled + scaled / size) 0
  steps + 36 * rest / (rest + 38)

/-! ## Reading -/

/-- How far a label has been read. -/
structure Reading where
  /-- The characters so far. -/
  shown : List Char
  /-- The code point so far. -/
  point : Nat := 128
  /-- The steps made since the label's start at this code point. -/
  steps : Nat := 0
  /-- The steps before the number that is being read. -/
  before : Nat := 0
  /-- The bias for this number. -/
  bias : Nat := 72
  /-- The place of the next digit. -/
  place : Nat := 36
  /-- What a digit counts at this place. -/
  weight : Nat := 1

/-- A number is complete: the character it leads to is put into the label. -/
def Reading.insert? (reading : Reading) : Option Reading :=
  let size := reading.shown.length + 1
  let point := reading.point + reading.steps / size
  let place := reading.steps % size
  if Nat.isValidChar point then
    some {
      shown := reading.shown.take place ++ Char.ofNat point :: reading.shown.drop place
      point
      steps := place + 1
      before := place + 1
      bias := adapt (reading.steps - reading.before) size (reading.before == 0) }
  else none

/-- Reads a digit. The numbers have 32 bits. -/
def Reading.digit? (reading : Reading) (c : Char) : Option Reading := do
  let value ← value? c
  let bound := threshold reading.bias reading.place
  let next := { reading with steps := reading.steps + value * reading.weight }
  if value < bound then next.insert?
  else if reading.weight * (36 - bound) < Nat.pow 2 32 then
    some { next with place := reading.place + 36, weight := reading.weight * (36 - bound) }
  else none

/-- The parts of a written label before and after its last hyphen. A hyphen at the very
start does not count. -/
def cut (cs : List Char) : List Char × List Char :=
  let last := (cs.reverse.takeWhile (· != '-')).reverse
  let first := cs.take (cs.length - last.length - 1)
  if first.isEmpty then ([], cs) else (first, last)

/-- Reads a label. -/
def decode? (cs : List Char) : Option (List Char) := do
  let (ascii, digits) := cut cs
  let reading ← digits.foldlM Reading.digit? { shown := ascii }
  if reading.weight = 1 then some reading.shown else none

/-! ## Writing -/

/-- Every threshold is positive, so the rest of a number behind a digit is smaller. -/
theorem one_le_threshold (bias place : Nat) : 1 ≤ threshold bias place := by
  simp only [threshold]
  omega

/-- The digits of a number, from a place on. -/
def digits (bias place value : Nat) : List Char :=
  let bound := threshold bias place
  if value < bound then [digit value]
  else digit (bound + (value - bound) % (36 - bound)) ::
    digits bias (place + 36) ((value - bound) / (36 - bound))
termination_by value
decreasing_by
  have positive := one_le_threshold bias place
  exact Nat.lt_of_le_of_lt (Nat.div_le_self _ _) (by omega)

/-- How far a label has been written. -/
structure Writing where
  /-- The digits so far. -/
  digits : List Char := []
  /-- The steps since the last character written. -/
  delta : Nat := 0
  /-- The bias for the next number. -/
  bias : Nat := 72
  /-- The number of characters of the label that are written. -/
  written : Nat

/-- Passes a character of the label on the way of a code point: a lower one is already
written, the code point itself is written now, a higher one is left for later. -/
def Writing.pass (ascii point : Nat) (writing : Writing) (c : Char) : Writing :=
  if c.toNat < point then { writing with delta := writing.delta + 1 }
  else if c.toNat = point then
    { digits := writing.digits ++ Punycode.digits writing.bias 36 writing.delta
      delta := 0
      bias := adapt writing.delta (writing.written + 1) (writing.written == ascii)
      written := writing.written + 1 }
  else writing

/-- Writes the code points of a list, which ascends, from one on. -/
def Writing.run (cs : List Char) (ascii : Nat) : Nat → List Nat → Writing → Writing
  | _, [], writing => writing
  | start, point :: rest, writing =>
    let reached := { writing with
      delta := writing.delta + (point - start) * (writing.written + 1) }
    let passed := cs.foldl (Writing.pass ascii point) reached
    Writing.run cs ascii (point + 1) rest { passed with delta := passed.delta + 1 }

/-- Writes a label. -/
def encode (cs : List Char) : List Char :=
  let ascii := cs.filter fun c => c.toNat < 128
  let points := ((cs.map Char.toNat).filter (128 ≤ ·)).mergeSort.eraseReps
  let writing := Writing.run cs ascii.length 128 points { written := ascii.length }
  ascii ++ (if ascii.isEmpty then [] else ['-']) ++ writing.digits

end NodeScaler.Domain.Punycode
