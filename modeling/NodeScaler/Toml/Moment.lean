import NodeScaler.Toml.Text

/-!
# Dates and times

A date is a year of four digits, a month and a day that exists in them. A time of day has
hours, minutes and seconds, with a second 60 allowed, and any number of places of a
fraction. A date may be followed by a time, behind a `T` or a space, and that by an offset
in hours and minutes or by `Z`. No setting is a date or a time, so only the form is read.
-/

namespace NodeScaler.Toml

open Reader

/-- A number of exactly `count` digits between the bounds. -/
def boundedNumber (count least greatest : Nat) : Reader Nat := do
  let value := digitsValue 10 (← exactly count Char.isDigit)
  if least ≤ value ∧ value ≤ greatest then return value else failure

/-- February has a 29th day in this year. -/
def isLeapYear (year : Nat) : Bool := year % 4 == 0 && (year % 100 != 0 || year % 400 == 0)

/-- The number of days of a month. -/
def daysOfMonth (year month : Nat) : Nat :=
  if month = 2 then (if isLeapYear year then 29 else 28)
  else if month = 4 ∨ month = 6 ∨ month = 9 ∨ month = 11 then 30
  else 31

/-- A date. -/
def date : Reader Unit := do
  let year ← boundedNumber 4 0 9999
  char '-'
  let month ← boundedNumber 2 1 12
  char '-'
  let _ ← boundedNumber 2 1 (daysOfMonth year month)

/-- A time of day. -/
def timeOfDay : Reader Unit := do
  let _ ← boundedNumber 2 0 23
  char ':'
  let _ ← boundedNumber 2 0 59
  char ':'
  let _ ← boundedNumber 2 0 60
  let _ ← optional (char '.' *> run1 Char.isDigit)

/-- The distance to universal time. -/
def offset : Reader Unit :=
  discard (satisfy fun c => c == 'Z' || c == 'z') <|> do
    let _ ← satisfy fun c => c == '+' || c == '-'
    let _ ← boundedNumber 2 0 23
    char ':'
    let _ ← boundedNumber 2 0 59

/-- A date, a time, or a date with a time. -/
def moment : Reader Unit :=
  (do
    date
    let _ ← optional (do
      let _ ← satisfy fun c => c == 'T' || c == 't' || c == ' '
      timeOfDay
      let _ ← optional offset)) <|>
  timeOfDay

end NodeScaler.Toml
