import NodeScaler.Inventory.Memory
import NodeScaler.Inventory.Naming
import NodeScaler.Json.Reader

/-!
# Provider identifiers of machines in memory

The BIOS UUID of a machine ends with its number in hexadecimal. Writing it in small letters changes
the letters and not their values, so the number can still be read off the provider identifier:
machines with different numbers have different provider identifiers.
-/

namespace NodeScaler

namespace Memory

/-- The number that hexadecimal digits stand for, of either case. -/
def numberOf (digits : List Char) : Nat :=
  digits.foldl (fun value c => 16 * value + (Json.hexValue? c).getD 0) 0

/-- The characters of a hexadecimal number are the sixteen digits. -/
theorem mem_hexadecimal {number : Nat} {c : Char} (isIn : c ∈ Nat.toDigits 16 number) :
    ∃ value, value < 16 ∧ c = Nat.digitChar value := by
  induction number using Nat.strongRecOn with
  | ind number inductionHypothesis =>
    by_cases small : number < 16
    · rw [Nat.toDigits_of_lt_base small] at isIn
      exact ⟨number, small, List.mem_singleton.1 isIn⟩
    · rw [Nat.toDigits_of_base_le (by decide) (by omega)] at isIn
      rcases List.mem_append.1 isIn with isFront | isLast
      · exact inductionHypothesis (number / 16) (by omega) isFront
      · exact ⟨number % 16, by omega, List.mem_singleton.1 isLast⟩

/-- Of the sixteen digits, each has its value, and a small letter that is made a capital and then
small again is what it was. -/
theorem digitChar_small {value : Nat} (isDigit : value < 16) :
    (Json.hexValue? (Nat.digitChar value)).getD 0 = value ∧
      (Nat.digitChar value).toUpper.toLower = Nat.digitChar value ∧
      ((Nat.digitChar value).isLower || (Nat.digitChar value).isDigit) = true := by
  have each : ∀ value : Fin 16, (Json.hexValue? (Nat.digitChar value)).getD 0 = value ∧
      (Nat.digitChar value).toUpper.toLower = Nat.digitChar value ∧
      ((Nat.digitChar value).isLower || (Nat.digitChar value).isDigit) = true := by decide
  exact each ⟨value, isDigit⟩

/-- A number is read back from its digits. -/
theorem numberOf_toDigits (number : Nat) : numberOf (Nat.toDigits 16 number) = number := by
  induction number using Nat.strongRecOn with
  | ind number inductionHypothesis =>
    by_cases small : number < 16
    · rw [Nat.toDigits_of_lt_base small, numberOf, List.foldl_cons, List.foldl_nil,
        (digitChar_small small).1, Nat.mul_zero, Nat.zero_add]
    · have front := inductionHypothesis (number / 16) (by omega)
      have last := (digitChar_small (Nat.mod_lt number (show 0 < 16 by decide))).1
      rw [Nat.toDigits_of_base_le (by decide) (by omega), numberOf, List.foldl_append, ← numberOf,
        front, List.foldl_cons, List.foldl_nil, last]
      omega

/-- Zeros in front do not change the number. -/
theorem numberOf_zeros (count : Nat) (digits : List Char) :
    numberOf (List.replicate count '0' ++ digits) = numberOf digits := by
  induction count with
  | zero => rfl
  | succ count inductionHypothesis =>
    rw [List.replicate_succ, List.cons_append, ← inductionHypothesis]
    rfl

/-- What every provider identifier of a machine begins with. -/
def providerStem : String := "vsphere://4237a000-0000-4000-8000-"

/-- The provider identifier of a machine ends with its number, in small letters, with zeros in
front. -/
theorem providerId_uuidOf (number : Nat) :
    (providerId (uuidOf number)).toList = providerStem.toList ++
      (List.replicate (12 - (Nat.toDigits 16 number).length) '0' ++ Nat.toDigits 16 number) := by
  have small : (Nat.toDigits 16 number).map (Char.toLower ∘ Char.toUpper) =
      Nat.toDigits 16 number := by
    refine (List.map_congr_left fun c isIn => ?_).trans (List.map_id _)
    obtain ⟨value, isDigit, rfl⟩ := mem_hexadecimal isIn
    exact (digitChar_small isDigit).2.1
  have stem : "vsphere://".toList ++ "4237A000-0000-4000-8000-".toList.map Char.toLower =
      providerStem.toList := by decide
  have zero : '0'.toLower = '0' := by decide
  unfold providerId uuidOf
  simp only [String.toList_append, String.toList_map, String.toList_ofList, List.map_append,
    List.map_replicate, List.map_map, List.length_map, small, zero]
  rw [← List.append_assoc, stem]

/-- Machines with different numbers have different provider identifiers. -/
theorem providerId_injective {first second : Nat}
    (same : providerId (uuidOf first) = providerId (uuidOf second)) : first = second := by
  have characters := congrArg String.toList same
  rw [providerId_uuidOf, providerId_uuidOf] at characters
  have numbers := congrArg numberOf (List.append_cancel_left characters)
  rwa [numberOf_zeros, numberOf_zeros, numberOf_toDigits, numberOf_toDigits] at numbers

end Memory

/-- The text is a provider identifier in small letters: behind the scheme there are only small
letters, digits and hyphens. -/
def IsProviderId (text : String) : Prop :=
  ∃ name, text = "vsphere://" ++ name ∧
    ∀ c ∈ name.toList, c.isLower = true ∨ c.isDigit = true ∨ c = '-'

/-- The provider identifier of a machine in memory is in small letters. -/
theorem Memory.isProviderId_uuidOf (number : Nat) : IsProviderId (providerId (uuidOf number)) := by
  refine ⟨(uuidOf number).map Char.toLower, rfl, fun c isIn => ?_⟩
  have whole := providerId_uuidOf number
  have stem : providerStem.toList = "vsphere://".toList ++ "4237a000-0000-4000-8000-".toList := by
    decide
  rw [providerId, String.toList_append, stem, List.append_assoc] at whole
  rw [List.append_cancel_left whole] at isIn
  rcases List.mem_append.1 isIn with isFront | isNumber
  · have front : "4237a000-0000-4000-8000-".toList.all
        (fun c => c.isLower || (c.isDigit || c == '-')) = true := by decide
    have allowed := List.all_eq_true.1 front c isFront
    simpa only [Bool.or_eq_true, beq_iff_eq] using allowed
  · rcases List.mem_append.1 isNumber with isZero | isDigit
    · rw [(List.mem_replicate.1 isZero).2]
      exact .inr (.inl rfl)
    · obtain ⟨value, small, rfl⟩ := mem_hexadecimal isDigit
      rcases Bool.or_eq_true_iff.1 (digitChar_small small).2.2 with isLetter | isDigit
      · exact .inl isLetter
      · exact .inr (.inl isDigit)

end NodeScaler
