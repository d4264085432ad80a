import NodeScaler.Proofs.Provider.Newcomers
import NodeScaler.Proofs.Provider.Reporting

/-!
# Numbers of machines

The name of a machine ends in its number, behind the last hyphen. So the number and what stands
before it can be read off a name, and machines of different groups of a cluster never have the same
name. The last number of a group is the greatest that a member bears, or the number of members if
that is greater, and the next number follows it; the order of the members does not matter.
-/

namespace NodeScaler.Cloning

/-! ## Names -/

/-- What follows the last separator can be read off, and so can what stands before it. -/
theorem separator_append_inj {separator : Char} {front other digits more : List Char}
    (absent : separator ∉ digits) (absentToo : separator ∉ more)
    (same : front ++ separator :: digits = other ++ separator :: more) :
    front = other ∧ digits = more := by
  -- The front that is longer would have a separator behind its beginning.
  rcases List.append_eq_append_iff.1 same with ⟨gap, rfl, rest⟩ | ⟨gap, rfl, rest⟩
  · cases gap with
    | nil => exact ⟨(List.append_nil _).symm, (List.cons.inj rest).2⟩
    | cons first later =>
      rw [(List.cons.inj rest).2] at absent
      exact absurd (List.mem_append_right _ List.mem_cons_self) absent
  · cases gap with
    | nil => exact ⟨List.append_nil _, (List.cons.inj rest).2.symm⟩
    | cons first later =>
      rw [(List.cons.inj rest).2] at absentToo
      exact absurd (List.mem_append_right _ List.mem_cons_self) absentToo

/-- No number is written with a hyphen. -/
theorem hyphen_not_mem_toDigits (number : Nat) : '-' ∉ Nat.toDigits 10 number := fun isIn => by
  have isDigit := Nat.isDigit_of_mem_toDigits (by decide) (by decide) isIn
  cases isDigit

/-- Of the machines of a cluster, those with the same name are of the same group and have the same
number. -/
theorem machineName_inj {cluster group other : String} {first second : Nat}
    (same : machineName cluster group first = machineName cluster other second) :
    group = other ∧ first = second := by
  have characters := congrArg String.toList same
  simp only [machineName, stem, Nat.toString_eq_ofList_toDigits, String.toList_append,
    String.toList_ofList, List.append_assoc, List.append_cancel_left_eq] at characters
  obtain ⟨groups, digits⟩ := separator_append_inj (hyphen_not_mem_toDigits first)
    (hyphen_not_mem_toDigits second) characters
  refine ⟨String.toList_injective groups, ?_⟩
  rw [← Nat.ofDigitChars_ten_toDigits (n := first), digits, Nat.ofDigitChars_ten_toDigits]

/-- A number of one or more digits is read as it is written, if it fits into 64 bits. -/
theorem readUnsigned?_toDigits {number : Nat} (fits : number < Nat.pow 2 64) :
    Text.readUnsigned? 64 (Nat.toDigits 10 number) = some number := by
  have digits : (Nat.toDigits 10 number).all Char.isDigit = true :=
    List.all_eq_true.2 fun digit isIn => Nat.isDigit_of_mem_toDigits (by decide) (by decide) isIn
  have noSign : Text.readUnsigned? 64 (Nat.toDigits 10 number) =
      (Text.readDigits? (Nat.toDigits 10 number)).filter (· < Nat.pow 2 64) := by
    unfold Text.readUnsigned?
    dsimp only
    split
    · next isSigned =>
      rw [isSigned] at digits
      cases digits
    · rfl
  have notEmpty : (Nat.toDigits 10 number).isEmpty = false := by
    simp
  rw [noSign, Text.readDigits?, digits, notEmpty]
  simp [Nat.ofDigitChars_ten_toDigits, fits]

/-- The number of a machine is read off its name, if it fits into 64 bits. -/
theorem numberAfter?_machineName (cluster group : String) {number : Nat}
    (fits : number < Nat.pow 2 64) :
    numberAfter? (stem cluster group) (machineName cluster group number) = some number := by
  have rest : (stem cluster group).toList.isPrefixOf? (machineName cluster group number).toList =
      some (Nat.toDigits 10 number) := by
    rw [List.isPrefixOf?_eq_some_iff_append_eq, machineName, String.toList_append,
      Nat.toString_eq_ofList_toDigits, String.toList_ofList]
  rw [numberAfter?, rest, Option.bind_some, readUnsigned?_toDigits fits]

/-! ## The last number and the next one -/

/-- The greatest of some numbers is bounded if all of them are. -/
theorem foldl_max_lt_iff {start bound : Nat} {numbers : List Nat} :
    numbers.foldl max start < bound ↔ start < bound ∧ ∀ number ∈ numbers, number < bound := by
  induction numbers generalizing start with
  | nil => simp
  | cons first rest inductionHypothesis =>
    rw [List.foldl_cons, inductionHypothesis, Nat.max_lt, List.forall_mem_cons, and_assoc]

/-- A number is above the last one just if it is above the number of names and above all numbers that
names bear. -/
theorem lastNumber_lt_iff {start : String} {names : List String} {bound : Nat} :
    lastNumber start names < bound ↔ names.length < bound ∧
      ∀ name ∈ names, ∀ number, numberAfter? start name = some number → number < bound := by
  rw [lastNumber, Nat.max_lt, foldl_max_lt_iff, and_comm]
  simp only [List.mem_filterMap]
  refine and_congr_right fun above => ?_
  constructor
  · rintro ⟨-, all⟩ name isIn number bears
    exact all number ⟨name, isIn, bears⟩
  · rintro all
    refine ⟨Nat.zero_lt_of_lt above, ?_⟩
    rintro number ⟨name, isIn, bears⟩
    exact all name isIn number bears

/-- The last number is at least the number of names and every number that a name bears. -/
theorem le_lastNumber (start : String) (names : List String) :
    names.length ≤ lastNumber start names ∧ ∀ name ∈ names, ∀ number,
      numberAfter? start name = some number → number ≤ lastNumber start names := by
  simpa only [Nat.lt_succ_iff] using lastNumber_lt_iff.1 (Nat.lt_succ_self (lastNumber start names))

/-- The order of the names does not matter for the last number. -/
theorem lastNumber_perm {start : String} {names others : List String} (perm : names.Perm others) :
    lastNumber start names = lastNumber start others := by
  rw [lastNumber, lastNumber, (perm.filterMap _).foldl_eq, perm.length_eq]

/-- The order of the names does not matter for the next number. -/
theorem nextNumber_perm {start : String} {names others : List String} (perm : names.Perm others) :
    nextNumber start names = nextNumber start others :=
  congrArg following (lastNumber_perm perm)

/-- The next number is above the last one, unless that is the greatest number of 64 bits. -/
theorem nextNumber_eq {start : String} {names : List String}
    (fits : lastNumber start names + 1 < Nat.pow 2 64) :
    nextNumber start names = lastNumber start names + 1 :=
  following_of_lt fits

end NodeScaler.Cloning
