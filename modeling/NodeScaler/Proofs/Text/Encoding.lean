import NodeScaler.Text.Base64

/-!
# Texts as bytes, and bytes as letters

A text is written as bytes in UTF-8, and bytes are written as letters in base64. Both writings can be
read back: bytes are those of at most one text, and letters of base64 those of one sequence of bytes.
-/

namespace NodeScaler.Text

/-! ## UTF-8 -/

/-- The bytes of a text in UTF-8. -/
def utf8 (cs : List Char) : List UInt8 := cs.flatMap String.utf8EncodeChar

/-- The bytes of two texts, one after the other. -/
theorem utf8_append (cs more : List Char) : utf8 (cs ++ more) = utf8 cs ++ utf8 more :=
  List.flatMap_append

/-- Listing the bytes of an array from a place on puts them behind those that are listed already. -/
theorem toList_loop_eq (array : ByteArray) (place : Nat) (listed : List UInt8) :
    ByteArray.toList.loop array place listed =
      listed.reverse ++ array.data.toList.drop place := by
  induction place, listed using ByteArray.toList.loop.induct array with
  | case1 place listed inside inductionHypothesis =>
    have inData : place < array.data.toList.length := by simpa using inside
    have isByte : array.get! place = array.data.toList[place] := by
      rw [ByteArray.get!, Array.getElem_toList]
      exact getElem!_pos array.data place (by simpa using inside)
    rw [ByteArray.toList.loop, if_pos inside, inductionHypothesis, List.drop_eq_getElem_cons inData,
      isByte]
    simp
  | case2 place listed outside =>
    have behind : array.data.toList.length ≤ place := by simpa using outside
    rw [ByteArray.toList.loop, if_neg outside, List.drop_eq_nil_of_le behind, List.append_nil]

/-- The bytes of a text are those of its characters. -/
theorem toUTF8_toList (text : String) : text.toUTF8.toList = utf8 text.toList := by
  have characters : text.toUTF8 = text.toList.utf8Encode := by
    rw [String.toUTF8_eq_toByteArray, ← String.toByteArray_ofList, String.ofList_toList]
  rw [ByteArray.toList, toList_loop_eq, characters, List.utf8Encode, List.data_toByteArray]
  simp [utf8]

/-- Bytes are read as the text whose bytes they are. -/
theorem fromUTF8?_eq_some_iff {bytes : List UInt8} {text : String} :
    String.fromUTF8? ⟨bytes.toArray⟩ = some text ↔ bytes = utf8 text.toList := by
  have listed : bytes = utf8 text.toList ↔ (⟨bytes.toArray⟩ : ByteArray) = text.toUTF8 := by
    rw [← toUTF8_toList, ByteArray.toList, toList_loop_eq, ByteArray.ext_iff, List.drop_zero,
      List.reverse_nil, List.nil_append, ← Array.toList_inj]
  rw [listed]
  constructor
  · intro isRead
    unfold String.fromUTF8? at isRead
    split at isRead
    · next valid =>
      rw [← Option.some.inj isRead]
      rfl
    · cases isRead
  · intro same
    have valid : (⟨bytes.toArray⟩ : ByteArray).IsValidUTF8 := same ▸ text.isValidUTF8
    rw [String.fromUTF8?, dif_pos valid]
    exact congrArg some (String.toByteArray_inj.1 same)

/-- Bytes that are those of no text are not read. -/
theorem fromUTF8?_eq_none_iff {bytes : List UInt8} :
    String.fromUTF8? ⟨bytes.toArray⟩ = none ↔ ∀ text : String, bytes ≠ utf8 text.toList := by
  simp only [Option.eq_none_iff_forall_ne_some, Ne, fromUTF8?_eq_some_iff]

/-- Different texts have different bytes. -/
theorem utf8_inj {cs others : List Char} (same : utf8 cs = utf8 others) : cs = others := by
  have first := fromUTF8?_eq_some_iff.2 (show utf8 cs = utf8 (String.ofList cs).toList by simp)
  have second := fromUTF8?_eq_some_iff.2 (show utf8 cs = utf8 (String.ofList others).toList by
    simp [same])
  have texts := Option.some.inj (first.symm.trans second)
  simpa using congrArg String.toList texts

/-! ## Base64 -/

namespace Base64

/-- The value of a letter. -/
def value? (c : Char) : Option Nat :=
  if 'A' ≤ c ∧ c ≤ 'Z' then some (c.toNat - 'A'.toNat)
  else if 'a' ≤ c ∧ c ≤ 'z' then some (c.toNat - 'a'.toNat + 26)
  else if '0' ≤ c ∧ c ≤ '9' then some (c.toNat - '0'.toNat + 52)
  else if c = '+' then some 62
  else if c = '/' then some 63
  else none

/-- The bytes that letters stand for: three for four letters, and at the end one or two for four of
which the last ones are `=`. -/
def decode? : List Char → Option (List UInt8)
  | [] => some []
  | a :: b :: c :: d :: rest =>
    match value? a, value? b, value? c, value? d with
    | some a, some b, some c, some d =>
      (decode? rest).map fun bytes =>
        UInt8.ofNat (a * 4 + b / 16) :: UInt8.ofNat (b % 16 * 16 + c / 4) ::
          UInt8.ofNat (c % 4 * 64 + d) :: bytes
    | some a, some b, some c, none =>
      if d = '=' ∧ rest = [] then
        some [UInt8.ofNat (a * 4 + b / 16), UInt8.ofNat (b % 16 * 16 + c / 4)]
      else none
    | some a, some b, none, none =>
      if c = '=' ∧ d = '=' ∧ rest = [] then some [UInt8.ofNat (a * 4 + b / 16)] else none
    | _, _, _, _ => none
  | _ => none

/-- A letter has the value that it is the letter of. -/
theorem value?_letter {value : Nat} (isSmall : value < 64) : value? (letter value) = some value := by
  have each : ∀ value ∈ List.range 64, value? (letter value) = some value := by decide
  exact each value (List.mem_range.2 isSmall)

/-- Bytes are read back from their letters. -/
theorem decode?_encode (bytes : List UInt8) : decode? (encode bytes) = some bytes := by
  have filler : value? '=' = none := by decide
  induction bytes using encode.induct with
  | case1 a b c rest inductionHypothesis =>
    have aSmall := a.toNat_lt
    have bSmall := b.toNat_lt
    have cSmall := c.toNat_lt
    have isA : a.toNat / 4 * 4 + (a.toNat % 4 * 16 + b.toNat / 16) / 16 = a.toNat := by omega
    have isB : (a.toNat % 4 * 16 + b.toNat / 16) % 16 * 16 + (b.toNat % 16 * 4 + c.toNat / 64) / 4 =
        b.toNat := by omega
    have isC : (b.toNat % 16 * 4 + c.toNat / 64) % 4 * 64 + c.toNat % 64 = c.toNat := by omega
    rw [encode, decode?, value?_letter (by omega), value?_letter (by omega), value?_letter (by omega),
      value?_letter (by omega)]
    simp only [inductionHypothesis, isA, isB, isC, Option.map_some, UInt8.ofNat_toNat]
  | case2 a b =>
    have aSmall := a.toNat_lt
    have bSmall := b.toNat_lt
    have isA : a.toNat / 4 * 4 + (a.toNat % 4 * 16 + b.toNat / 16) / 16 = a.toNat := by omega
    have isB : (a.toNat % 4 * 16 + b.toNat / 16) % 16 * 16 + b.toNat % 16 * 4 / 4 = b.toNat := by
      omega
    rw [encode, decode?, value?_letter (by omega), value?_letter (by omega), value?_letter (by omega),
      filler]
    simp only [isA, isB, and_self, if_true, UInt8.ofNat_toNat]
  | case3 a =>
    have aSmall := a.toNat_lt
    have isA : a.toNat / 4 * 4 + a.toNat % 4 * 16 / 16 = a.toNat := by omega
    rw [encode, decode?, value?_letter (by omega), value?_letter (by omega), filler]
    simp only [isA, and_self, if_true, UInt8.ofNat_toNat]
  | case4 => rfl

end Base64

end NodeScaler.Text
