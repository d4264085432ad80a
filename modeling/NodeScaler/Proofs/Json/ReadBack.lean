import NodeScaler.Json.Writer
import NodeScaler.Proofs.Json.Reading

/-!
# Reading back what is written

The compact form of a value is one of the texts that stand for it, provided that its numbers are written
as numbers are. So it is read as that value. A text comes back as it was, with everything in it that had
to be escaped.
-/

namespace NodeScaler.Json

/-- Values whose numbers are written as numbers are. -/
inductive Value.Proper : Value → Prop where
  /-- The empty value. -/
  | null : Proper .null
  /-- A truth value. -/
  | boolean (value : Bool) : Proper (.boolean value)
  /-- A number that is read as a whole. -/
  | number {written : List Char} (isNumber : readNumber written = some (written, [])) :
      Proper (.number written)
  /-- A text, or what stands for none. -/
  | string (value : Option String) : Proper (.string value)
  /-- An array of such values. -/
  | array {elements : List Value} (proper : ∀ element ∈ elements, Proper element) :
      Proper (.array elements)
  /-- An object with such values. -/
  | object {fields : List (Option String × Value)} (proper : ∀ field ∈ fields, Proper field.2) :
      Proper (.object fields)

/-- Fields with proper values are proper. -/
theorem Value.Proper.ofFields {fields : List (String × Value)}
    (proper : ∀ field ∈ fields, field.2.Proper) : (Value.ofFields fields).Proper :=
  .object (List.forall_mem_map.2 proper)

/-! ## Texts -/

/-- The number of a control character is read back. -/
theorem unit?_hexDigit :
    ∀ code < 32, unit? '0' '0' (hexDigit (code / 16)) (hexDigit (code % 16)) = some code := by
  decide

/-- A character is written as one piece, which stands for it. -/
theorem lexes_escaped (c : Char) :
    ∃ piece, (∀ pieces body, Lexes pieces body → Lexes (piece :: pieces) (escaped c ++ body)) ∧
      ∀ pieces characters, Joins pieces characters → Joins (piece :: pieces) (c :: characters) := by
  have lettered (letter : Char) (stands : escape? letter = some c) :
      ∃ piece, (∀ pieces body, Lexes pieces body →
        Lexes (piece :: pieces) (['\\', letter] ++ body)) ∧
        ∀ pieces characters, Joins pieces characters → Joins (piece :: pieces) (c :: characters) :=
    ⟨.char c, fun _ _ => .letter stands, fun _ _ => .char c⟩
  unfold escaped
  split_ifs with isQuote isBackslash isNewline isReturn isTab isBackspace isFeed isControl
  · exact lettered '"' (by rw [isQuote]; rfl)
  · exact lettered '\\' (by rw [isBackslash]; rfl)
  · exact lettered 'n' (isNewline ▸ rfl)
  · exact lettered 'r' (isReturn ▸ rfl)
  · exact lettered 't' (isTab ▸ rfl)
  · exact lettered 'b' (isBackspace ▸ rfl)
  · exact lettered 'f' (isFeed ▸ rfl)
  · exact ⟨.unit c.toNat, fun _ _ => .unit (unit?_hexDigit _ isControl), fun _ _ => .unit c⟩
  · exact ⟨.char c, fun _ _ => .plain isQuote isBackslash isControl, fun _ _ => .char c⟩

/-- Characters are written as pieces that stand for them. -/
theorem lexes_flatMap (characters : List Char) :
    ∃ pieces, Lexes pieces (characters.flatMap escaped) ∧ Joins pieces characters := by
  induction characters with
  | nil => exact ⟨[], .nil, .nil⟩
  | cons c others inductionHypothesis =>
    obtain ⟨pieces, lexes, joins⟩ := inductionHypothesis
    obtain ⟨piece, lexesToo, joinsToo⟩ := lexes_escaped c
    exact ⟨piece :: pieces, lexesToo _ _ lexes, joinsToo _ _ joins⟩

/-- A text is spelled as it is written. -/
theorem spellsText_writeText (value : Option String) : SpellsText value (writeText value) := by
  cases value with
  | none =>
    have isUnit : unit? 'd' '8' '0' '0' = some 0xD800 := rfl
    exact (Lexes.unit isUnit .nil).spellsText
  | some text =>
    obtain ⟨pieces, lexes, joins⟩ := lexes_flatMap text.toList
    exact .joined lexes joins

/-! ## Values -/

/-- Elements are spelled as they are written, if each of them is. -/
theorem spellsElements_writeElements {first : Value} {elements : List Value}
    (spells : ∀ element ∈ first :: elements, Spells element (write element)) :
    SpellsElements (first :: elements) (writeElements (first :: elements)) := by
  induction elements generalizing first with
  | nil => exact .last (spells first List.mem_cons_self).stands
  | cons second others inductionHypothesis =>
    rw [writeElements]
    · exact .more (spells first List.mem_cons_self).stands
        (inductionHypothesis fun element isIn => spells element (List.mem_cons_of_mem _ isIn))
    · exact List.cons_ne_nil _ _

/-- Fields are spelled as they are written, if each value is. -/
theorem spellsFields_writeFields {first : Option String × Value}
    {fields : List (Option String × Value)}
    (spells : ∀ field ∈ first :: fields, Spells field.2 (write field.2)) :
    SpellsFields (first :: fields) (writeFields (first :: fields)) := by
  have noBlank : Blank [] := List.forall_mem_nil _
  induction fields generalizing first with
  | nil =>
    exact .last noBlank (spellsText_writeText first.1) noBlank
      (spells first List.mem_cons_self).stands
  | cons second others inductionHypothesis =>
    obtain ⟨name, value⟩ := first
    have spelled := SpellsFields.more noBlank (spellsText_writeText name) noBlank
      (spells (name, value) List.mem_cons_self).stands
      (inductionHypothesis fun field isIn => spells field (List.mem_cons_of_mem _ isIn))
    rw [writeFields]
    · simpa using spelled
    · exact List.cons_ne_nil _ _

/-- A proper value is spelled as it is written. -/
theorem Value.Proper.spells {value : Value} (proper : value.Proper) : Spells value (write value) := by
  induction proper with
  | null => exact .null
  | boolean value =>
    cases value with
    | true => exact .yes
    | false => exact .no
  | number isNumber => exact .number (isNumber_of_readNumber isNumber).2
  | string value => exact .string (spellsText_writeText value)
  | @array elements proper inductionHypothesis =>
    cases elements with
    | nil => exact .empty (List.forall_mem_nil _)
    | cons first others => exact .array (spellsElements_writeElements inductionHypothesis)
  | @object fields proper inductionHypothesis =>
    cases fields with
    | nil => exact .bare (List.forall_mem_nil _)
    | cons first others => exact .object (spellsFields_writeFields inductionHypothesis)

/-- The compact text of a proper value stands for it. -/
theorem Value.Proper.stands_text {value : Value} (proper : value.Proper) :
    Stands value value.text.toList := by
  rw [Value.text, String.toList_ofList]
  exact proper.spells.stands

/-- A proper value in its compact form is read as this value. -/
theorem Value.Proper.read?_write {value : Value} (proper : value.Proper) :
    Value.read? (write value) = some value :=
  read?_eq_some_iff.2 proper.spells.stands

end NodeScaler.Json
