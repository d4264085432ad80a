import NodeScaler.Http.Percent
import NodeScaler.Proofs.Text.Encoding

/-!
# Decoding what is encoded

What is encoded for an address stands for the bytes of the text that it was made from. This is so
unless the text itself holds an encoded byte, a percent sign with two hexadecimal digits behind it:
percent signs are not encoded again, and then the bytes are fewer.
-/

namespace NodeScaler.Percent

open Text (utf8)

variable {plain : Char → Bool} {cs rest : List Char} {c : Char}

/-! ## Encoded bytes -/

/-- The character is a hexadecimal digit. -/
def isHex (c : Char) : Bool := (value? c).isSome

/-- An encoded byte stands in front. -/
def startsEncoded : List Char → Bool
  | '%' :: high :: low :: _ => isHex high && isHex low
  | _ => false

/-- An encoded byte stands somewhere. -/
def hasEncoded : List Char → Bool
  | [] => false
  | c :: rest => startsEncoded (c :: rest) || hasEncoded rest

/-- Only a percent sign begins an encoded byte. -/
theorem startsEncoded_of_ne (isOther : c ≠ '%') : startsEncoded (c :: rest) = false := by
  unfold startsEncoded
  split
  · next same => exact absurd (List.cons.inj same).1 isOther
  · rfl

/-- What begins with an encoded byte. -/
theorem startsEncoded_iff : startsEncoded cs = true ↔
    ∃ high low more, cs = '%' :: high :: low :: more ∧ isHex high = true ∧ isHex low = true := by
  constructor
  · intro starts
    unfold startsEncoded at starts
    split at starts
    · next high low more =>
      obtain ⟨isHigh, isLow⟩ := Bool.and_eq_true_iff.1 starts
      exact ⟨high, low, more, rfl, isHigh, isLow⟩
    · cases starts
  · rintro ⟨high, low, more, rfl, isHigh, isLow⟩
    rw [startsEncoded, isHigh, isLow]
    rfl

/-- A text holds no encoded byte just if no two hexadecimal digits stand behind a percent sign. -/
theorem hasEncoded_eq_false_iff : hasEncoded cs = false ↔ ∀ before high low after,
    cs = before ++ '%' :: high :: low :: after → ¬(isHex high = true ∧ isHex low = true) := by
  induction cs with
  | nil => simp [hasEncoded]
  | cons c rest inductionHypothesis =>
    rw [hasEncoded, Bool.or_eq_false_iff, inductionHypothesis, Bool.eq_false_iff, Ne, startsEncoded_iff]
    constructor
    · rintro ⟨atFront, behind⟩ (- | ⟨first, before⟩) high low after same areHex
      · exact atFront ⟨high, low, after, same, areHex⟩
      · exact behind before high low after (List.cons.inj same).2 areHex
    · intro nowhere
      constructor
      · rintro ⟨high, low, more, same, areHex⟩
        exact nowhere [] high low more same areHex
      · rintro before high low after rfl
        exact nowhere (c :: before) high low after rfl

/-- What holds of a text if it holds of what follows its first byte, an encoded one or that of a plain
character, holds of every text. -/
@[elab_as_elim]
theorem by_bytes {motive : List Char → Prop} (nil : motive [])
    (encoded : ∀ high low rest, isHex high = true → isHex low = true → motive rest →
      motive ('%' :: high :: low :: rest))
    (plain : ∀ c rest, startsEncoded (c :: rest) = false → motive rest → motive (c :: rest))
    (cs : List Char) : motive cs := by
  induction length : cs.length using Nat.strongRecOn generalizing cs with
  | ind bound inductionHypothesis =>
    cases cs with
    | nil => exact nil
    | cons c rest =>
      cases starts : startsEncoded (c :: rest) with
      | true =>
        obtain ⟨high, low, more, same, isHigh, isLow⟩ := startsEncoded_iff.1 starts
        rw [same] at length ⊢
        refine encoded high low more isHigh isLow (inductionHypothesis more.length ?_ more rfl)
        simp only [List.length_cons] at length
        omega
      | false =>
        refine plain c rest starts (inductionHypothesis rest.length ?_ rest rfl)
        simp only [List.length_cons] at length
        omega

/-! ## Decoding -/

/-- Where no encoded byte begins, a character stands for its own bytes. -/
theorem decode_cons (isPlain : startsEncoded (c :: rest) = false) :
    decode (c :: rest) = String.utf8EncodeChar c ++ decode rest := by
  have sign : ['%'.toUInt8] = String.utf8EncodeChar '%' := by decide
  by_cases isPercent : c = '%'
  · subst isPercent
    match rest with
    | [] | [_] => rfl
    | high :: low :: more =>
      rw [← sign, decode]
      rw [startsEncoded, isHex, isHex, Bool.and_eq_false_iff] at isPlain
      cases isHigh : value? high with
      | none => rfl
      | some first =>
        cases isLow : value? low with
        | none => rfl
        | some second => simp [isHigh, isLow] at isPlain
  · rw [decode]
    rintro high low more ⟨⟩
    exact absurd rfl isPercent

/-- An encoded byte is one byte, whatever follows it. -/
theorem exists_decode_cons {high low : Char} (isHigh : isHex high = true) (isLow : isHex low = true) :
    ∃ byte, ∀ rest, decode ('%' :: high :: low :: rest) = byte :: decode rest := by
  obtain ⟨first, isFirst⟩ := Option.isSome_iff_exists.1 isHigh
  obtain ⟨second, isSecond⟩ := Option.isSome_iff_exists.1 isLow
  refine ⟨UInt8.ofNat (first * 16 + second), fun rest => ?_⟩
  rw [decode, isFirst, isSecond]

/-- A text without encoded bytes stands for itself. -/
theorem decode_eq_utf8 (isPlain : hasEncoded cs = false) : decode cs = utf8 cs := by
  induction cs with
  | nil => rfl
  | cons c rest inductionHypothesis =>
    obtain ⟨isFirst, isRest⟩ := Bool.or_eq_false_iff.1 isPlain
    rw [decode_cons isFirst, inductionHypothesis isRest]
    rfl

/-- The bytes of a text are at least as many as its characters. -/
theorem length_le_length_utf8 (cs : List Char) : cs.length ≤ (utf8 cs).length := by
  induction cs with
  | nil => exact Nat.le_refl 0
  | cons c rest inductionHypothesis =>
    have some := String.length_utf8EncodeChar c ▸ c.utf8Size_pos
    have whole : (utf8 (c :: rest)).length = (String.utf8EncodeChar c).length + (utf8 rest).length :=
      List.length_append
    rw [whole, List.length_cons]
    omega

/-- Decoding gives no more bytes than the text has, and fewer if there is an encoded one. -/
theorem length_decode (cs : List Char) : (decode cs).length ≤ (utf8 cs).length ∧
    (hasEncoded cs = true → (decode cs).length < (utf8 cs).length) := by
  induction cs using by_bytes with
  | nil => exact ⟨Nat.le_refl 0, nofun⟩
  | encoded high low rest isHigh isLow inductionHypothesis =>
    -- Three characters are left for one byte.
    obtain ⟨byte, isByte⟩ := exists_decode_cons isHigh isLow
    have three : utf8 ('%' :: high :: low :: rest) = utf8 ['%', high, low] ++ utf8 rest :=
      Text.utf8_append ['%', high, low] rest
    have atLeast : 3 ≤ (utf8 ['%', high, low]).length := length_le_length_utf8 ['%', high, low]
    have fewer : (decode ('%' :: high :: low :: rest)).length <
        (utf8 ('%' :: high :: low :: rest)).length := by
      rw [isByte, three, List.length_append, List.length_cons]
      omega
    exact ⟨Nat.le_of_lt fewer, fun _ => fewer⟩
  | plain c rest isPlain inductionHypothesis =>
    obtain ⟨atMost, fewer⟩ := inductionHypothesis
    have whole : utf8 (c :: rest) = String.utf8EncodeChar c ++ utf8 rest := rfl
    rw [decode_cons isPlain, whole, List.length_append, List.length_append, hasEncoded, isPlain,
      Bool.false_or]
    exact ⟨Nat.add_le_add_left atMost _, fun isEncoded => Nat.add_lt_add_left (fewer isEncoded) _⟩

/-! ## Decoding what is encoded -/

/-- A digit has the value that it is the digit of. -/
theorem value?_digit {value : Nat} (isSmall : value < 16) : value? (digit value) = some value := by
  have each : ∀ value ∈ List.range 16, value? (digit value) = some value := by decide
  exact each value (List.mem_range.2 isSmall)

/-- An encoded byte is decoded to the byte. -/
theorem decode_byte (b : UInt8) (rest : List Char) : decode (byte b ++ rest) = b :: decode rest := by
  have small := b.toNat_lt
  have isByte : b.toNat / 16 * 16 + b.toNat % 16 = b.toNat := by omega
  simp only [byte, List.cons_append, List.nil_append]
  rw [decode, value?_digit (by omega), value?_digit (by omega)]
  simp only [isByte, UInt8.ofNat_toNat]

/-- An encoded character is decoded to its bytes. -/
theorem decode_char (c : Char) (rest : List Char) :
    decode (char c ++ rest) = String.utf8EncodeChar c ++ decode rest := by
  unfold char
  induction String.utf8EncodeChar c with
  | nil => rfl
  | cons b bytes inductionHypothesis =>
    rw [List.flatMap_cons, List.append_assoc, decode_byte, inductionHypothesis, List.cons_append]

/-- An encoded character begins with a percent sign. -/
theorem exists_char_eq (c : Char) : ∃ more, char c = '%' :: more := by
  have some := String.length_utf8EncodeChar c ▸ c.utf8Size_pos
  obtain ⟨b, bytes, isBytes⟩ := List.exists_cons_of_length_pos some
  rw [char, isBytes]
  exact ⟨_, rfl⟩

/-- The percent sign and the digits are not encoded. -/
structure Keeps (plain : Char → Bool) : Prop where
  /-- The percent sign stays. -/
  sign : plain '%' = true
  /-- The digits stay. -/
  hex : ∀ c, isHex c = true → plain c = true

/-- A text behind a character is encoded to what begins with a digit just if it does. -/
theorem Keeps.encode_cons (keeps : Keeps plain) (c : Char) (rest : List Char) :
    (isHex c = true ∧ encode plain (c :: rest) = c :: encode plain rest) ∨
    (isHex c = false ∧ ∃ first more, encode plain (c :: rest) = first :: more ∧ isHex first = false) := by
  cases isDigit : isHex c with
  | true =>
    refine .inl ⟨rfl, ?_⟩
    rw [encode, List.flatMap_cons, if_pos (keeps.hex c isDigit)]
    rfl
  | false =>
    refine .inr ⟨rfl, ?_⟩
    rw [encode, List.flatMap_cons]
    split
    · exact ⟨c, _, rfl, isDigit⟩
    · obtain ⟨more, isChar⟩ := exists_char_eq c
      rw [isChar]
      exact ⟨'%', _, rfl, by decide⟩

/-- Encoding what stands behind a character makes no encoded byte of it, and leaves one. -/
theorem Keeps.startsEncoded_encode (keeps : Keeps plain) (c : Char) (rest : List Char) :
    startsEncoded (c :: encode plain rest) = startsEncoded (c :: rest) := by
  by_cases isPercent : c = '%'
  · subst isPercent
    have short {first : Char} {more : List Char} (noHex : isHex first = false) :
        startsEncoded ('%' :: first :: more) = false := by
      cases more with
      | nil => rfl
      | cons => rw [startsEncoded, noHex, Bool.false_and]
    cases rest with
    | nil => rfl
    | cons high rest =>
      rcases keeps.encode_cons high rest with ⟨isHigh, same⟩ | ⟨noHex, first, more, same, noHexToo⟩
      · rw [same]
        cases rest with
        | nil => rfl
        | cons low rest =>
          rcases keeps.encode_cons low rest with ⟨isLow, same⟩ | ⟨noHex, first, more, same, noHexToo⟩
          · rw [same]
            rfl
          · rw [same, startsEncoded, startsEncoded, noHex, noHexToo]
      · rw [same, short noHexToo, short noHex]
  · rw [startsEncoded_of_ne isPercent, startsEncoded_of_ne isPercent]

/-- What is encoded stands for the same bytes as before. -/
theorem Keeps.decode_encode (keeps : Keeps plain) (cs : List Char) :
    decode (encode plain cs) = decode cs := by
  induction cs using by_bytes with
  | nil => rfl
  | encoded high low rest isHigh isLow inductionHypothesis =>
    have written : encode plain ('%' :: high :: low :: rest) =
        '%' :: high :: low :: encode plain rest := by
      simp [encode, keeps.sign, keeps.hex high isHigh, keeps.hex low isLow]
    obtain ⟨byte, isByte⟩ := exists_decode_cons isHigh isLow
    rw [written, isByte, isByte, inductionHypothesis]
  | plain c rest isPlain inductionHypothesis =>
    rw [decode_cons isPlain, ← inductionHypothesis, encode, List.flatMap_cons]
    split
    · refine decode_cons ?_
      rw [← isPlain]
      exact keeps.startsEncoded_encode c rest
    · exact decode_char c _

/-- What is encoded holds no character but plain ones of the text, percent signs and digits. -/
theorem mem_encode (isIn : c ∈ encode plain cs) : c ∈ cs ∨ c = '%' ∨ isHex c = true := by
  obtain ⟨original, isOriginal, isIn⟩ := List.mem_flatMap.1 isIn
  split at isIn
  · exact .inl (List.mem_singleton.1 isIn ▸ isOriginal)
  · obtain ⟨b, -, isIn⟩ := List.mem_flatMap.1 isIn
    have small := b.toNat_lt
    have areHex {value : Nat} (isSmall : value < 16) : isHex (digit value) = true := by
      rw [isHex, value?_digit isSmall]
      rfl
    rcases List.mem_cons.1 isIn with rfl | isIn
    · exact .inr (.inl rfl)
    · rcases List.mem_cons.1 isIn with rfl | isIn
      · exact .inr (.inr (areHex (by omega)))
      · rw [List.mem_singleton.1 isIn]
        exact .inr (.inr (areHex (by omega)))

end NodeScaler.Percent
