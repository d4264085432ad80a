/-!
# Reading a document from the front

A reader takes characters off the front of a text and yields a value, or refuses. A
refusal takes nothing, so a choice between readers tries each of them on the same text.
Repetition is bounded by the length of the text: a reader that takes at least one
character each time is never cut short by this bound.
-/

namespace NodeScaler.Toml

/-- Takes a value off the front of a text, or refuses the text. -/
abbrev Reader (α : Type) := StateT (List Char) Option α

namespace Reader

variable {α β : Type}

/-- Accepts a text only if nothing of it remains. -/
def complete? (reader : Reader α) (cs : List Char) : Option α :=
  match reader cs with
  | some (value, []) => some value
  | _ => none

/-- The next character, which stays in place; none at the end. -/
def peek : Reader (Option Char) := return (← get).head?

/-- The next character, if it has the property. -/
def satisfy (property : Char → Bool) : Reader Char := fun cs =>
  match cs with
  | c :: rest => if property c then some (c, rest) else none
  | [] => none

/-- The given character. -/
def char (expected : Char) : Reader Unit := discard (satisfy (· == expected))

/-- The given characters, one after the other. -/
def word (expected : List Char) : Reader Unit := expected.forM char

/-- All characters up to the first without the property. -/
def run (property : Char → Bool) : Reader (List Char) := fun cs =>
  some (cs.takeWhile property, cs.dropWhile property)

/-- At least one character, up to the first without the property. -/
def run1 (property : Char → Bool) : Reader (List Char) := do
  return (← satisfy property) :: (← run property)

/-- Exactly `count` characters with the property. -/
def exactly (count : Nat) (property : Char → Bool) : Reader (List Char) :=
  (List.replicate count ()).mapM fun _ => satisfy property

/-- As many values as can be read, at most `bound`. -/
def atMost (reader : Reader α) : Nat → Reader (List α)
  | 0 => return []
  | bound + 1 => (do return (← reader) :: (← atMost reader bound)) <|> return []

/-- As many values as can be read. -/
def many (reader : Reader α) : Reader (List α) := do atMost reader (← get).length

/-- One value or more with a separator between any two. A separator that no value
follows is left in place. -/
def separated (reader : Reader α) (separator : Reader β) : Reader (List α) := do
  return (← reader) :: (← many (separator *> reader))

/-- The end of the text. -/
def finish : Reader Unit := fun cs => if cs.isEmpty then some ((), cs) else none

end Reader

end NodeScaler.Toml
