/-!
# Spans of time

A span is a number of nanoseconds. Its text uses the largest of the units second,
millisecond, microsecond and nanosecond of which the span holds at least one, with as
many places of the fraction as are needed: `600s`, `1.5s`, `250ms`, `1.001µs`, `0ns`.

Timers do not measure spans that exactly. A timer is taken to be set at a whole millisecond of
its clock, and goes off at the first one at which the span is over.
-/

namespace NodeScaler

/-- A span of time. -/
structure Duration where
  /-- Its length in nanoseconds. -/
  nanoseconds : Nat
deriving DecidableEq, Repr

namespace Duration

/-- No time. -/
def zero : Duration := ⟨0⟩

/-- So many seconds. -/
def seconds (count : Nat) : Duration := ⟨count * 1000000000⟩

/-- So many milliseconds. -/
def milliseconds (count : Nat) : Duration := ⟨count * 1000000⟩

/-- One span after the other. -/
def plus (first second : Duration) : Duration := ⟨first.nanoseconds + second.nanoseconds⟩

/-- What is left of a span when a part of it is over; nothing if the part is longer. -/
def less (whole part : Duration) : Duration := ⟨whole.nanoseconds - part.nanoseconds⟩

/-- The longest time that anything is waited for: thirty years of 365 days. -/
def longestWait : Duration := seconds (30 * 365 * 86400)

/-- The time that is waited when a span is asked for. -/
def waited (span : Duration) : Duration := ⟨min span.nanoseconds longestWait.nanoseconds⟩

/-- The whole milliseconds in a span. -/
def wholeMilliseconds (span : Duration) : Nat := span.nanoseconds / 1000000

/-- The span rounded up to whole milliseconds. -/
def roundedUp (span : Duration) : Duration :=
  ⟨1000000 * (span.wholeMilliseconds + min (span.nanoseconds % 1000000) 1)⟩

/-- The time after which a timer goes off that is set for a span. The clock of timers moves in whole
milliseconds, and a timer never goes off early. -/
def alarm (span : Duration) : Duration := span.roundedUp.waited

/-- A timer goes off no earlier than a wait for the span ends. -/
theorem waited_le_alarm (span : Duration) :
    span.waited.nanoseconds ≤ span.alarm.nanoseconds := by
  simp only [waited, alarm, roundedUp, wholeMilliseconds]
  omega

/-- A wait until a timer goes off is not cut short. -/
@[simp] theorem waited_alarm (span : Duration) : span.alarm.waited = span.alarm := by
  simp only [waited, alarm, Nat.min_assoc, Nat.min_self]

/-- The whole seconds in a span. -/
def wholeSeconds (span : Duration) : Nat := span.nanoseconds / 1000000000

/-- The fraction `part / 10 ^ places`, written after a point without the zeros at its
end; nothing when it is zero. -/
def fractionText (places part : Nat) : String :=
  let digits := (toString part).toList
  let padded := List.replicate (places - digits.length) '0' ++ digits
  let needed := (padded.reverse.dropWhile (· == '0')).reverse
  if needed.isEmpty then "" else "." ++ String.ofList needed

/-- The span as a number of units of `10 ^ places` nanoseconds. -/
def inUnits (span : Duration) (places : Nat) (unitName : String) : String :=
  toString (span.nanoseconds / Nat.pow 10 places) ++
    fractionText places (span.nanoseconds % Nat.pow 10 places) ++ unitName

/-- The text of a span, in the largest unit that fits into it. -/
def text (span : Duration) : String :=
  if 1000000000 ≤ span.nanoseconds then span.inUnits 9 "s"
  else if 1000000 ≤ span.nanoseconds then span.inUnits 6 "ms"
  else if 1000 ≤ span.nanoseconds then span.inUnits 3 "µs"
  else span.inUnits 0 "ns"

end Duration

end NodeScaler
