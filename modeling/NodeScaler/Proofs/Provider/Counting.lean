import Mathlib.Data.List.Iterate
import Mathlib.Data.List.Nodup
import Mathlib.Data.Nat.ModEq
import NodeScaler.Provider.Cloning

/-!
# Counting in 64 bits

The numbers of machines are counted on modulo 2 ^ 64. Fewer than 2 ^ 64 steps never come back to
where they have begun, so a call does not try a number twice, not even if it counts past the
greatest one. As long as it does not, the numbers are simply consecutive.
-/

namespace NodeScaler.Cloning

variable {number first length : Nat}

/-! ## The number after a number -/

/-- A number has 64 bits. -/
theorem following_lt (number : Nat) : following number < Nat.pow 2 64 :=
  Nat.mod_lt _ (by decide)

/-- The next number has 64 bits. -/
theorem nextNumber_lt (start : String) (names : List String) :
    nextNumber start names < Nat.pow 2 64 :=
  following_lt _

/-- Below the greatest number, the number after a number is greater by one. -/
theorem following_of_lt (fits : number + 1 < Nat.pow 2 64) : following number = number + 1 :=
  Nat.mod_eq_of_lt fits

-- After the greatest number comes zero.
example : following (Nat.pow 2 64 - 1) = 0 := by decide

/-- Counting on by some steps adds their number, modulo 2 ^ 64. -/
theorem iterate_following (fits : first < Nat.pow 2 64) (steps : Nat) :
    following^[steps] first = (first + steps) % Nat.pow 2 64 := by
  induction steps with
  | zero => exact (Nat.mod_eq_of_lt fits).symm
  | succ steps inductionHypothesis =>
    rw [Function.iterate_succ_apply', inductionHypothesis, following, Nat.mod_add_mod,
      Nat.add_assoc]

/-! ## Numbers that are counted on -/

/-- So many numbers, counted on from a first one. -/
def numbersFrom (first length : Nat) : List Nat := List.iterate following first length

/-- They are so many. -/
@[simp] theorem length_numbersFrom (first length : Nat) : (numbersFrom first length).length = length :=
  List.length_iterate _ _ _

/-- The numbers after the first one are counted on from the one after it. -/
theorem numbersFrom_succ (first length : Nat) :
    numbersFrom first (length + 1) = first :: numbersFrom (following first) length := rfl

/-- A number comes a number of steps after the first one. -/
theorem mem_numbersFrom : number ∈ numbersFrom first length ↔
    ∃ steps < length, number = following^[steps] first :=
  List.mem_iterate

/-- All of them have 64 bits if the first one has. -/
theorem lt_of_mem_numbersFrom (fits : first < Nat.pow 2 64)
    (isNumber : number ∈ numbersFrom first length) : number < Nat.pow 2 64 := by
  obtain ⟨steps, -, rfl⟩ := mem_numbersFrom.1 isNumber
  rw [iterate_following fits]
  exact Nat.mod_lt _ (by decide)

/-- Up to the greatest number, the numbers are consecutive. -/
theorem numbersFrom_eq_range' (fits : first + length ≤ Nat.pow 2 64) :
    numbersFrom first length = List.range' first length := by
  induction length generalizing first with
  | zero => rfl
  | succ length inductionHypothesis =>
    rw [numbersFrom_succ, List.range'_succ]
    cases length with
    | zero => rfl
    | succ length =>
      rw [following_of_lt (by omega), inductionHypothesis (by omega)]

/-- No number comes twice before all numbers of 64 bits have come. -/
theorem nodup_numbersFrom (fits : first < Nat.pow 2 64) (short : length ≤ Nat.pow 2 64) :
    (numbersFrom first length).Nodup := by
  rw [numbersFrom, ← List.range_map_iterate]
  apply List.nodup_range.map_on
  intro step isStep other isOther same
  rw [iterate_following fits, iterate_following fits] at same
  rw [List.mem_range] at isStep isOther
  have large : (0 : Nat) < Nat.pow 2 64 := by decide
  exact Nat.ModEq.eq_of_lt_of_lt (Nat.ModEq.add_left_cancel' first same) (by omega) (by omega)

end NodeScaler.Cloning
