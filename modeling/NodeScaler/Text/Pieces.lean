/-!
# Pieces and ranges

Two small tools for tables and addresses that are written as text: the pieces of a text
between separators, of which there is always one more than separators, and the test whether
a character lies in one of some closed ranges of code points.
-/

namespace NodeScaler.Text

/-- The parts of a text between separators. -/
def splitAt (separator : Char) : List Char → List (List Char)
  | [] => [[]]
  | c :: rest =>
    match splitAt separator rest with
    | [] => [[c]]
    | first :: others => if c = separator then [] :: first :: others else (c :: first) :: others

/-- The character lies in one of the ranges. -/
def isWithin (ranges : List (Nat × Nat)) (c : Char) : Bool :=
  ranges.any fun (first, last) => first ≤ c.toNat && c.toNat ≤ last

end NodeScaler.Text
