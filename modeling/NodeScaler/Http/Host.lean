import NodeScaler.Domain.Name
import NodeScaler.Http.Percent

/-!
# Hosts

A host is a name or an address of version 4 or 6. A name is written in ASCII, whatever
characters it is given in. A name whose last label is a number is meant as an address of
version 4, whose up to four parts may be decimal, octal or hexadecimal; the last
part fills the bytes that are left. An address of version 6 stands in brackets and is
written with its longest row of zeros left out.
-/

namespace NodeScaler.Host

/-- The value of digits in a base, if there are only such digits. -/
def number? (base : Nat) (digits : List Char) : Option Nat :=
  digits.foldlM (fun value digit => do
    let next ← Percent.value? digit
    if next < base then some (value * base + next) else none) 0

/-! ## Version 4 -/

/-- A part of an address: hexadecimal behind `0x`, octal behind a zero, or decimal. -/
def part? : List Char → Option Nat
  | [] => none
  | '0' :: 'x' :: digits | '0' :: 'X' :: digits => number? 16 digits
  | '0' :: digit :: digits => number? 8 (digit :: digits)
  | digits => number? 10 digits

/-- The labels of a name, without the empty one behind a point at the end. -/
def labels (name : List Char) : List (List Char) :=
  let parts := Text.splitAt '.' name
  if 1 < parts.length && parts.getLast? == some [] then parts.dropLast else parts

/-- The name is meant as an address. -/
def endsInNumber (name : List Char) : Bool :=
  match (labels name).getLast? with
  | some last => !last.isEmpty && (last.all Char.isDigit || (part? last).isSome)
  | none => false

/-- The number of an address: every part but the last is a byte, and the last fills the
rest of the four bytes. -/
def address4? (parts : List Nat) : Option Nat :=
  match parts.getLast? with
  | none => none
  | some last =>
    let front := parts.dropLast
    if front.length ≤ 3 && front.all (· < 256) && last < Nat.pow 256 (4 - front.length) then
      some (front.zipIdx.foldl
        (fun sum (value, index) => sum + value * Nat.pow 256 (3 - index)) last)
    else none

/-- The four bytes of an address in decimal. -/
def text4 (address : Nat) : List Char :=
  ['.'].intercalate ([3, 2, 1, 0].map fun place =>
    (toString (address / Nat.pow 256 place % 256)).toList)

/-- Reads an address of version 4. -/
def read4? (name : List Char) : Option (List Char) := do
  let parts ← (labels name).mapM part?
  return text4 (← address4? parts)

/-! ## Version 6 -/

/-- A byte in decimal without leading zeros. -/
def decimalByte? (digits : List Char) : Option Nat :=
  match digits with
  | [] | '0' :: _ :: _ => none
  | _ => (number? 10 digits).filter (· < 256)

/-- A group of sixteen bits, with one to four hexadecimal digits. -/
def group? (digits : List Char) : Option Nat :=
  if digits.isEmpty || 4 < digits.length then none else number? 16 digits

/-- The two groups of an address of version 4 inside one of version 6. -/
def embedded? (digits : List Char) : Option (List Nat) :=
  match Text.splitAt '.' digits with
  | [a, b, c, d] => do
    return [(← decimalByte? a) * 256 + (← decimalByte? b),
      (← decimalByte? c) * 256 + (← decimalByte? d)]
  | _ => none

/-- Groups with colons between them; at the very end the last may be an address of
version 4. -/
def groups? (isEnd : Bool) (cs : List Char) : Option (List Nat) :=
  if cs.isEmpty then some []
  else
    let parts := Text.splitAt ':' cs
    match parts.getLast? with
    | none => none
    | some last => do
      let front ← parts.dropLast.mapM group?
      if isEnd && last.contains '.' then return front ++ (← embedded? last)
      else return front ++ [← group? last]

/-- The parts before and after the first double colon. -/
def cutAtDouble : List Char → List Char × Option (List Char)
  | ':' :: ':' :: rest => ([], some rest)
  | [] => ([], none)
  | c :: rest =>
    let (front, back) := cutAtDouble rest
    (c :: front, back)

/-- The eight groups of an address; a double colon stands for one zero or more. -/
def address6? (cs : List Char) : Option (List Nat) :=
  match cutAtDouble cs with
  | (all, none) => do
    let groups ← groups? true all
    if groups.length = 8 then some groups else none
  | (front, some back) => do
    let first ← groups? false front
    let last ← groups? true back
    if first.length + last.length ≤ 7 then
      some (first ++ List.replicate (8 - first.length - last.length) 0 ++ last)
    else none

/-- The number of zeros in front. -/
def zeros (groups : List Nat) : Nat := (groups.takeWhile (· == 0)).length

/-- The start and the length of the first longest row of zeros. -/
def longestZeros : List Nat → Nat × Nat
  | [] => (0, 0)
  | group :: rest =>
    let (start, length) := longestZeros rest
    if length ≤ zeros (group :: rest) then (0, zeros (group :: rest)) else (start + 1, length)

/-- The groups in hexadecimal, with colons between them. -/
def groupsText (groups : List Nat) : List Char :=
  [':'].intercalate (groups.map (Nat.toDigits 16))

/-- The text of an address. A single zero is not left out. -/
def text6 (groups : List Nat) : List Char :=
  let (start, length) := longestZeros groups
  if length < 2 then groupsText groups
  else groupsText (groups.take start) ++ [':', ':'] ++ groupsText (groups.drop (start + length))

/-! ## Hosts -/

/-- Reads a host and gives the form in which it is written. -/
def read? (cs : List Char) : Option String :=
  match cs with
  | [] => none
  | '[' :: rest =>
    if rest.getLast? = some ']' then
      (address6? rest.dropLast).map fun groups => String.ofList ('[' :: text6 groups ++ [']'])
    else none
  | _ => do
    let name ← Domain.toAscii? (← Percent.decodedText? cs).toList
    if name.isEmpty then none
    else if endsInNumber name then (read4? name).map String.ofList
    else some (String.ofList name)

end NodeScaler.Host
