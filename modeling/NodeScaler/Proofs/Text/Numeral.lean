import Mathlib.Data.List.TakeWhile
import NodeScaler.Text.Blank
import NodeScaler.Text.Integer

/-!
# Written integers

An integer is written with one or more digits, behind a sign or without one, and may stand between
blanks. What is written so is said here without following a reader, and the readers read just this.
-/

namespace NodeScaler.Text

variable {cs digits numeral before after : List Char} {number : Nat} {value : Int}

/-- One or more digits, and the number that they stand for. -/
structure Digits (digits : List Char) (number : Nat) : Prop where
  /-- There is a digit. -/
  nonempty : digits ≠ []
  /-- There is nothing but digits. -/
  areDigits : ∀ c ∈ digits, c.isDigit = true
  /-- They stand for the number in base ten; zeros in front do not matter. -/
  isNumber : Nat.ofDigitChars 10 digits 0 = number

/-- A text that stands for an integer. -/
inductive Numeral : List Char → Int → Prop where
  /-- Digits alone stand for their number. -/
  | plain {digits : List Char} {number : Nat} (isNumber : Digits digits number) :
      Numeral digits number
  /-- So they do behind a plus sign. -/
  | plus {digits : List Char} {number : Nat} (isNumber : Digits digits number) :
      Numeral ('+' :: digits) number
  /-- Behind a minus sign they stand for its negative. -/
  | minus {digits : List Char} {number : Nat} (isNumber : Digits digits number) :
      Numeral ('-' :: digits) (-number)

/-- A text that stands for an integer, between blanks. -/
inductive Padded : List Char → Int → Prop where
  /-- Blanks may come before and after. -/
  | intro {before numeral after : List Char} {value : Int}
      (blankBefore : ∀ c ∈ before, isBlank c = true) (stands : Numeral numeral value)
      (blankAfter : ∀ c ∈ after, isBlank c = true) : Padded (before ++ numeral ++ after) value

/-! ## Characters -/

/-- No digit is blank. -/
theorem not_isBlank_of_isDigit {c : Char} (isDigit : c.isDigit = true) : isBlank c = false := by
  obtain ⟨first, last⟩ : 48 ≤ c.toNat ∧ c.toNat ≤ 57 := Char.isDigit_iff_toNat.1 isDigit
  simp only [isBlank, Bool.or_eq_false_iff, Bool.and_eq_false_iff, decide_eq_false_iff_not,
    beq_eq_false_iff_ne]
  omega

/-- What stands for an integer has no blanks. -/
theorem Numeral.not_isBlank (stands : Numeral numeral value) : ∀ c ∈ numeral, isBlank c = false := by
  have digitsOnly {digits : List Char} {number : Nat} (isNumber : Digits digits number) :
      ∀ c ∈ digits, isBlank c = false :=
    fun c isIn => not_isBlank_of_isDigit (isNumber.areDigits c isIn)
  cases stands with
  | plain isNumber => exact digitsOnly isNumber
  | plus isNumber | minus isNumber => exact List.forall_mem_cons.2 ⟨by decide, digitsOnly isNumber⟩

/-! ## Blanks around a text -/

/-- A text that neither begins nor ends with a blank. -/
structure Bare (cs : List Char) : Prop where
  /-- It does not begin with one. -/
  begins : ∀ c ∈ cs.head?, isBlank c = false
  /-- It does not end with one. -/
  ends : ∀ c ∈ cs.getLast?, isBlank c = false

/-- A text without blanks has none at its ends. -/
theorem Bare.of_not_isBlank (inside : ∀ c ∈ cs, isBlank c = false) : Bare cs :=
  ⟨fun c isFirst => inside c (List.mem_of_head? isFirst),
    fun c isLast => inside c (List.mem_of_getLast? isLast)⟩

/-- Blanks in front of a text that does not begin with one are dropped, and no more. -/
theorem dropWhile_isBlank (blankBefore : ∀ c ∈ before, isBlank c = true)
    (begins : ∀ c ∈ cs.head?, isBlank c = false) : (before ++ cs).dropWhile isBlank = cs := by
  rw [List.dropWhile_append_of_pos blankBefore]
  cases cs with
  | nil => rfl
  | cons first others => exact List.dropWhile_cons_of_neg (by simp [begins first rfl])

/-- Blanks around a text that has none at its ends are dropped, and no more. -/
theorem Bare.trimBlanks_around (bare : Bare cs) (blankBefore : ∀ c ∈ before, isBlank c = true)
    (blankAfter : ∀ c ∈ after, isBlank c = true) : trimBlanks (before ++ cs ++ after) = cs := by
  by_cases nonempty : cs = []
  · subst nonempty
    refine List.reverse_eq_nil_iff.2 (List.dropWhile_eq_nil_iff.2 fun c isIn => ?_)
    have isAround := (List.dropWhile_suffix isBlank).subset (List.mem_reverse.1 isIn)
    rw [List.append_nil] at isAround
    exact (List.mem_append.1 isAround).elim (blankBefore c) (blankAfter c)
  · have front : (before ++ (cs ++ after)).dropWhile isBlank = cs ++ after := by
      refine dropWhile_isBlank blankBefore ?_
      obtain ⟨first, others, rfl⟩ := List.exists_cons_of_ne_nil nonempty
      exact bare.begins
    have back : (after.reverse ++ cs.reverse).dropWhile isBlank = cs.reverse := by
      refine dropWhile_isBlank (fun c isIn => blankAfter c (List.mem_reverse.1 isIn)) ?_
      rw [List.head?_reverse]
      exact bare.ends
    rw [trimBlanks, List.append_assoc, front, List.reverse_append, back, List.reverse_reverse]

/-- What remains of a text, and the blanks dropped at its end. -/
theorem trimBlanks_append (cs : List Char) :
    trimBlanks cs ++ ((cs.dropWhile isBlank).reverse.takeWhile isBlank).reverse =
      cs.dropWhile isBlank := by
  rw [trimBlanks, ← List.reverse_append, List.takeWhile_append_dropWhile, List.reverse_reverse]

/-- What is dropped around a text is blank. -/
theorem exists_trimBlanks (cs : List Char) : ∃ before after, cs = before ++ trimBlanks cs ++ after ∧
    (∀ c ∈ before, isBlank c = true) ∧ ∀ c ∈ after, isBlank c = true := by
  refine ⟨cs.takeWhile isBlank, ((cs.dropWhile isBlank).reverse.takeWhile isBlank).reverse, ?_, ?_, ?_⟩
  · rw [List.append_assoc, trimBlanks_append, List.takeWhile_append_dropWhile]
  · exact fun c isIn => List.mem_takeWhile_imp isIn
  · exact fun c isIn => List.mem_takeWhile_imp (List.mem_reverse.1 isIn)

/-- What remains of a text stands in it. -/
theorem mem_of_mem_trim {text : String} {c : Char} (isIn : c ∈ (trim text).toList) :
    c ∈ text.toList := by
  obtain ⟨before, after, whole, -⟩ := exists_trimBlanks text.toList
  rw [trim, String.toList_ofList] at isIn
  rw [whole]
  exact List.mem_append_left _ (List.mem_append_right _ isIn)

/-- What remains of a text has no blanks at its ends. -/
theorem bare_trimBlanks (cs : List Char) : Bare (trimBlanks cs) := by
  constructor
  · intro c isFirst
    have front : (cs.dropWhile isBlank).head? = some c := by
      rw [← trimBlanks_append, List.head?_append, Option.mem_def.1 isFirst, Option.some_or]
    simpa [front] using List.head?_dropWhile_not isBlank cs
  · intro c isLast
    have back : ((cs.dropWhile isBlank).reverse.dropWhile isBlank).head? = some c := by
      rw [← List.getLast?_reverse]
      exact isLast
    simpa [back] using List.head?_dropWhile_not isBlank (cs.dropWhile isBlank).reverse

/-- What remains of a text stands in it between blanks, and has none at its ends. -/
theorem trimBlanks_eq_iff : trimBlanks cs = numeral ↔ Bare numeral ∧ ∃ before after,
    cs = before ++ numeral ++ after ∧
      (∀ c ∈ before, isBlank c = true) ∧ ∀ c ∈ after, isBlank c = true := by
  constructor
  · rintro rfl
    exact ⟨bare_trimBlanks cs, exists_trimBlanks cs⟩
  · rintro ⟨bare, before, after, rfl, blankBefore, blankAfter⟩
    exact bare.trimBlanks_around blankBefore blankAfter

/-! ## Readers -/

/-- Just digits are read, as the number that they stand for. -/
theorem readDigits?_eq_some_iff : readDigits? cs = some number ↔ Digits cs number := by
  unfold readDigits?
  constructor
  · intro isRead
    split at isRead
    · next good =>
      obtain ⟨nonempty, areDigits⟩ := Bool.and_eq_true_iff.1 good
      exact ⟨by simpa using nonempty, List.all_eq_true.1 areDigits, Option.some.inj isRead⟩
    · cases isRead
  · rintro ⟨nonempty, areDigits, rfl⟩
    rw [if_pos]
    simpa [nonempty] using areDigits

/-- Just texts that stand for an integer are read, as this integer. -/
theorem readInteger?_eq_some_iff : readInteger? cs = some value ↔ Numeral cs value := by
  constructor
  · intro isRead
    unfold readInteger? at isRead
    split at isRead <;> obtain ⟨number, isNumber, rfl⟩ := Option.map_eq_some_iff.1 isRead
    · exact .plus (readDigits?_eq_some_iff.1 isNumber)
    · exact .minus (readDigits?_eq_some_iff.1 isNumber)
    · exact .plain (readDigits?_eq_some_iff.1 isNumber)
  · intro stands
    cases stands with
    | plus isNumber | minus isNumber =>
      rw [readInteger?, readDigits?_eq_some_iff.2 isNumber]
      rfl
    | plain isNumber =>
      have isRead := readDigits?_eq_some_iff.2 isNumber
      unfold readInteger?
      -- A sign in front would be no digit.
      split
      · exact absurd (isNumber.areDigits '+' List.mem_cons_self) (by decide)
      · exact absurd (isNumber.areDigits '-' List.mem_cons_self) (by decide)
      · rw [isRead]
        rfl

/-- Without the blanks around it, just a text that stands for an integer between blanks is read. -/
theorem readInteger?_trimBlanks_eq_some_iff :
    readInteger? (trimBlanks cs) = some value ↔ Padded cs value := by
  rw [readInteger?_eq_some_iff]
  constructor
  · intro stands
    obtain ⟨before, after, whole, blankBefore, blankAfter⟩ := exists_trimBlanks cs
    rw [whole]
    exact .intro blankBefore stands blankAfter
  · rintro ⟨blankBefore, stands, blankAfter⟩
    rwa [(Bare.of_not_isBlank stands.not_isBlank).trimBlanks_around blankBefore blankAfter]

/-- A number without a sign or behind a plus sign is read, if it fits into the width. -/
theorem readUnsigned?_eq_some_iff {bits : Nat} : readUnsigned? bits cs = some number ↔
    (Digits cs number ∨ ∃ digits, cs = '+' :: digits ∧ Digits digits number) ∧
      number < Nat.pow 2 bits := by
  have reads (digits : List Char) : (readDigits? digits).filter (· < Nat.pow 2 bits) = some number ↔
      Digits digits number ∧ number < Nat.pow 2 bits := by
    rw [Option.filter_eq_some_iff, readDigits?_eq_some_iff, decide_eq_true_iff]
  unfold readUnsigned?
  split
  · next digits =>
    -- A plus sign is no digit, so it does not belong to the number itself.
    have noDigits : ¬Digits ('+' :: digits) number := by
      intro isNumber
      exact absurd (isNumber.areDigits '+' List.mem_cons_self) (by decide)
    rw [reads]
    simp [noDigits]
  · next noSign =>
    have noPlus : ¬∃ digits, cs = '+' :: digits ∧ Digits digits number := by
      rintro ⟨digits, same, -⟩
      exact noSign digits same
    rw [reads]
    simp [noPlus]

/-- A number that is written with its digits stands for itself. -/
theorem digits_toString (number : Nat) : Digits (toString number).toList number := by
  rw [Nat.toString_eq_ofList_toDigits, String.toList_ofList]
  exact ⟨by simp, fun c isIn => Nat.isDigit_of_mem_toDigits (by decide) (by decide) isIn,
    Nat.ofDigitChars_ten_toDigits⟩

end NodeScaler.Text
