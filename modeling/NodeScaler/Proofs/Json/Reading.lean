import NodeScaler.Proofs.Json.Spelling

/-!
# Texts that are read

A text is read as a value just if it stands for this value: the grammar is all that the reader knows.
So a text stands for one value at most, and with anything but blanks behind it for none.
-/

namespace NodeScaler.Json

variable {value other : Value} {name : Option String} {elements : List Value}
  {fields : List (Option String × Value)} {cs text before body after rest left : List Char} {c : Char}
  {fuel : Nat}

/-! ## Blanks -/

/-- The four blanks. -/
theorem isBlank_iff : isBlank c = true ↔ c = ' ' ∨ c = '\t' ∨ c = '\n' ∨ c = '\r' := by
  simp [isBlank, or_assoc]

/-- Blanks are skipped. -/
theorem Blank.skip (blank : Blank before) (noBlank : isBlank c = false) (rest : List Char) :
    skipBlanks (before ++ c :: rest) = c :: rest := by
  rw [skipBlanks, List.dropWhile_append_of_pos blank, List.dropWhile_cons_of_neg (by simp [noBlank])]

/-- Nothing but blanks is skipped. -/
theorem exists_blank (cs : List Char) : ∃ before, Blank before ∧ cs = before ++ skipBlanks cs :=
  ⟨cs.takeWhile isBlank, fun _ isIn => List.mem_takeWhile_imp isIn,
    List.takeWhile_append_dropWhile.symm⟩

/-- Blanks may be followed by blanks. -/
theorem Blank.append (blank : Blank before) (blankToo : Blank after) : Blank (before ++ after) :=
  List.forall_mem_append.2 ⟨blank, blankToo⟩

/-- There need not be any blanks around a value. -/
theorem Spells.stands (spells : Spells value cs) : Stands value cs := by
  simpa using Stands.intro (List.forall_mem_nil _) spells (List.forall_mem_nil _)

/-- Blanks may be put in front of a value. -/
theorem Stands.padded (blank : Blank before) (stands : Stands value cs) :
    Stands value (before ++ cs) := by
  obtain ⟨blankBefore, spells, blankAfter⟩ := stands
  rw [← List.append_assoc]
  exact .intro (blank.append blankBefore) spells blankAfter

/-- Blanks may be put in front of elements. -/
theorem SpellsElements.padded (blank : Blank before) (inside : SpellsElements elements body) :
    SpellsElements elements (before ++ body) := by
  cases inside with
  | last stands => exact .last (stands.padded blank)
  | more stands others =>
    rw [← List.append_assoc]
    exact .more (stands.padded blank) others

/-- Blanks may be put in front of fields. -/
theorem SpellsFields.padded (blank : Blank before) (inside : SpellsFields fields body) :
    SpellsFields fields (before ++ body) := by
  cases inside with
  | last blankBefore isName blankAfter stands =>
    rw [← List.append_assoc]
    exact .last (blank.append blankBefore) isName blankAfter stands
  | more blankBefore isName blankAfter stands others =>
    rw [← List.append_assoc]
    exact .more (blank.append blankBefore) isName blankAfter stands others

/-! ## One step of reading -/

/-- The ways in which a value is read, if its parts are read with some fuel. -/
inductive ReadsValue (fuel : Nat) : List Char → Value → List Char → Prop where
  /-- A quote opens a text. -/
  | string {value : Option String} {cs rest : List Char} (reads : readText cs = some (value, rest)) :
      ReadsValue fuel ('"' :: cs) (.string value) rest
  /-- Brackets with blanks between them. -/
  | empty {cs rest : List Char} (closes : skipBlanks cs = ']' :: rest) :
      ReadsValue fuel ('[' :: cs) (.array []) rest
  /-- A bracket opens an array. -/
  | array {elements : List Value} {cs rest : List Char} (goesOn : (skipBlanks cs).head? ≠ some ']')
      (reads : readElements fuel (skipBlanks cs) = some (elements, rest)) :
      ReadsValue fuel ('[' :: cs) (.array elements) rest
  /-- Braces with blanks between them. -/
  | bare {cs rest : List Char} (closes : skipBlanks cs = '\x7d' :: rest) :
      ReadsValue fuel ('\x7b' :: cs) (.object []) rest
  /-- A brace opens an object. -/
  | object {fields : List (Option String × Value)} {cs rest : List Char}
      (goesOn : (skipBlanks cs).head? ≠ some '\x7d')
      (reads : readFields fuel (skipBlanks cs) = some (fields, rest)) :
      ReadsValue fuel ('\x7b' :: cs) (.object fields) rest
  /-- A number. -/
  | number {cs written rest : List Char} (reads : readNumber cs = some (written, rest)) :
      ReadsValue fuel cs (.number written) rest
  /-- A word. -/
  | word {value : Value} {cs rest : List Char} (reads : readWord cs = some (value, rest)) :
      ReadsValue fuel cs value rest

/-- A number that is read begins with its sign or a digit. -/
theorem readNumber_front {written : List Char} (reads : readNumber cs = some (written, rest)) :
    ∃ c others, cs = c :: others ∧ (c = '-' ∨ c.isDigit = true) := by
  obtain ⟨rfl, isNumber⟩ := isNumber_of_readNumber reads
  obtain ⟨c, others, rfl, isFront⟩ := isNumber.front
  exact ⟨c, others ++ rest, rfl, isFront⟩

/-- A word is spelled. -/
theorem spells_of_readWord (reads : readWord cs = some (value, rest)) :
    ∃ text, cs = text ++ rest ∧ Spells value text := by
  unfold readWord at reads
  split at reads
  · cases reads
    exact ⟨_, rfl, .null⟩
  · cases reads
    exact ⟨_, rfl, .yes⟩
  · cases reads
    exact ⟨_, rfl, .no⟩
  · cases reads

/-- A value is read in one of these ways. -/
theorem readsValue_of_readValue (reads : readValue (fuel + 1) cs = some (value, rest)) :
    ReadsValue fuel cs value rest := by
  cases cs with
  | nil => cases reads
  | cons c cs =>
    rw [readValue] at reads
    split_ifs at reads with isQuote isBracket isBrace isFront
    · obtain ⟨⟨text, left⟩, readsText, same⟩ := Option.bind_eq_some_iff.1 reads
      cases same
      exact isQuote ▸ .string readsText
    · rw [isBracket]
      split at reads
      · next closes =>
        cases reads
        exact .empty closes
      · next goesOn =>
        obtain ⟨⟨elements, left⟩, readsElements, same⟩ := Option.bind_eq_some_iff.1 reads
        cases same
        refine .array (fun isFirst => ?_) readsElements
        obtain ⟨later, same⟩ := List.head?_eq_some_iff.1 isFirst
        exact goesOn later same
    · rw [isBrace]
      split at reads
      · next closes =>
        cases reads
        exact .bare closes
      · next goesOn =>
        obtain ⟨⟨fields, left⟩, readsFields, same⟩ := Option.bind_eq_some_iff.1 reads
        cases same
        refine .object (fun isFirst => ?_) readsFields
        obtain ⟨later, same⟩ := List.head?_eq_some_iff.1 isFirst
        exact goesOn later same
    · obtain ⟨⟨written, left⟩, readsNumber, same⟩ := Option.bind_eq_some_iff.1 reads
      cases same
      exact .number readsNumber
    · exact .word reads

/-- In each of these ways a value is read. -/
theorem ReadsValue.readValue (reads : ReadsValue fuel cs value rest) :
    readValue (fuel + 1) cs = some (value, rest) := by
  cases reads with
  | string reads =>
    rw [Json.readValue, if_pos rfl, reads]
    rfl
  | empty closes =>
    rw [Json.readValue]
    simp only [Char.reduceEq, if_false, if_true, closes]
  | array goesOn reads =>
    rw [Json.readValue]
    simp only [Char.reduceEq, if_false, if_true]
    split
    · next closes => exact absurd (congrArg List.head? closes) goesOn
    · rw [reads]
      rfl
  | bare closes =>
    rw [Json.readValue]
    simp only [Char.reduceEq, if_false, if_true, closes]
  | object goesOn reads =>
    rw [Json.readValue]
    simp only [Char.reduceEq, if_false, if_true]
    split
    · next closes => exact absurd (congrArg List.head? closes) goesOn
    · rw [reads]
      rfl
  | number reads =>
    obtain ⟨c, others, rfl, isFront⟩ := readNumber_front reads
    have noMark : c ≠ '"' ∧ c ≠ '[' ∧ c ≠ '\x7b' := by
      refine ⟨?_, ?_, ?_⟩ <;> rintro rfl <;> revert isFront <;> decide
    rw [Json.readValue, if_neg noMark.1, if_neg noMark.2.1, if_neg noMark.2.2, if_pos isFront, reads]
    rfl
  | word reads =>
    rw [← reads]
    unfold readWord at reads
    split at reads
    · rfl
    · rfl
    · rfl
    · cases reads

/-- How the elements of an array are read: one by one, up to the closing bracket. -/
theorem readElements_iff : readElements (fuel + 1) cs = some (elements, rest) ↔
    ∃ value left, readValue fuel cs = some (value, left) ∧
      (skipBlanks left = ']' :: rest ∧ elements = [value] ∨
        ∃ later others, skipBlanks left = ',' :: later ∧
          readElements fuel (skipBlanks later) = some (others, rest) ∧ elements = value :: others) := by
  rw [readElements]
  constructor
  · intro reads
    obtain ⟨⟨value, left⟩, readsValue, reads⟩ := Option.bind_eq_some_iff.1 reads
    refine ⟨value, left, readsValue, ?_⟩
    dsimp only at reads
    split at reads
    · next closes =>
      cases reads
      exact .inl ⟨closes, rfl⟩
    · next later goesOn =>
      obtain ⟨⟨others, last⟩, readsOthers, same⟩ := Option.bind_eq_some_iff.1 reads
      cases same
      exact .inr ⟨later, others, goesOn, readsOthers, rfl⟩
    · cases reads
  · rintro ⟨value, left, readsValue, ⟨closes, rfl⟩ | ⟨later, others, goesOn, readsOthers, rfl⟩⟩
    · simp only [readsValue, Option.bind_eq_bind, Option.bind_some, closes]
      rfl
    · simp only [readsValue, Option.bind_eq_bind, Option.bind_some, goesOn, readsOthers]
      rfl

/-- How the fields of an object are read: one by one, up to the closing brace. -/
theorem readFields_iff : readFields (fuel + 1) cs = some (fields, rest) ↔
    ∃ front name between later value left, cs = '"' :: front ∧
      readText front = some (name, between) ∧ skipBlanks between = ':' :: later ∧
      readValue fuel (skipBlanks later) = some (value, left) ∧
      (skipBlanks left = '\x7d' :: rest ∧ fields = [(name, value)] ∨
        ∃ behind others, skipBlanks left = ',' :: behind ∧
          readFields fuel (skipBlanks behind) = some (others, rest) ∧
          fields = (name, value) :: others) := by
  constructor
  · intro reads
    unfold readFields at reads
    split at reads
    · next front isFuel =>
      cases isFuel
      obtain ⟨⟨name, between⟩, readsName, reads⟩ := Option.bind_eq_some_iff.1 reads
      dsimp only at reads
      split at reads
      · next later isColon =>
        obtain ⟨⟨value, left⟩, readsValue, reads⟩ := Option.bind_eq_some_iff.1 reads
        refine ⟨_, name, between, later, value, left, rfl, readsName, isColon, readsValue, ?_⟩
        dsimp only at reads
        split at reads
        · next closes =>
          cases reads
          exact .inl ⟨closes, rfl⟩
        · next behind goesOn =>
          obtain ⟨⟨others, last⟩, readsOthers, same⟩ := Option.bind_eq_some_iff.1 reads
          cases same
          exact .inr ⟨behind, others, goesOn, readsOthers, rfl⟩
        · cases reads
      · cases reads
    · cases reads
  · rintro ⟨front, name, between, later, value, left, rfl, readsName, isColon, readsValue,
      ⟨closes, rfl⟩ | ⟨behind, others, goesOn, readsOthers, rfl⟩⟩
    · simp only [readFields, readsName, isColon, readsValue, Option.bind_eq_bind, Option.bind_some,
        closes]
      rfl
    · simp only [readFields, readsName, isColon, readsValue, Option.bind_eq_bind, Option.bind_some,
        goesOn, readsOthers]
      rfl

/-! ## Nothing else is read -/

/-- A value and the blanks behind it. -/
theorem Spells.stands_of_skip (spells : Spells value text) (goesOn : skipBlanks left = c :: rest) :
    ∃ whole, text ++ left = whole ++ c :: rest ∧ Stands value whole := by
  obtain ⟨after, blank, isLeft⟩ := exists_blank left
  refine ⟨[] ++ (text ++ after), ?_, .intro (List.forall_mem_nil _) spells blank⟩
  rw [isLeft, goesOn, List.nil_append, List.append_assoc]

/-- What is read with some fuel is spelled. -/
structure ReadsOnlySpelled (fuel : Nat) : Prop where
  /-- A value is. -/
  value {cs rest : List Char} {value : Value} : readValue fuel cs = some (value, rest) →
    ∃ text, cs = text ++ rest ∧ Spells value text
  /-- Elements are, up to the bracket. -/
  elements {cs rest : List Char} {elements : List Value} :
    readElements fuel cs = some (elements, rest) →
      ∃ body, cs = body ++ ']' :: rest ∧ SpellsElements elements body
  /-- Fields are, up to the brace. -/
  fields {cs rest : List Char} {fields : List (Option String × Value)} :
    readFields fuel cs = some (fields, rest) →
      ∃ body, cs = body ++ '\x7d' :: rest ∧ SpellsFields fields body

/-- A value is spelled if its parts are. -/
theorem ReadsOnlySpelled.readsValue (parts : ReadsOnlySpelled fuel)
    (reads : ReadsValue fuel cs value rest) : ∃ text, cs = text ++ rest ∧ Spells value text := by
  cases reads with
  | string reads =>
    obtain ⟨text, whole, isText⟩ := spellsText_of_readText reads
    exact ⟨text, whole, .string isText⟩
  | @empty cs rest closes =>
    obtain ⟨before, blank, whole⟩ := exists_blank cs
    rw [closes] at whole
    exact ⟨'[' :: (before ++ [']']), by simp [whole], .empty blank⟩
  | @array elements cs rest goesOn reads =>
    obtain ⟨before, blank, whole⟩ := exists_blank cs
    obtain ⟨body, isBody, inside⟩ := parts.elements reads
    rw [isBody] at whole
    exact ⟨'[' :: (before ++ body ++ [']']), by simp [whole], .array (inside.padded blank)⟩
  | @bare cs rest closes =>
    obtain ⟨before, blank, whole⟩ := exists_blank cs
    rw [closes] at whole
    exact ⟨'\x7b' :: (before ++ ['\x7d']), by simp [whole], .bare blank⟩
  | @object fields cs rest goesOn reads =>
    obtain ⟨before, blank, whole⟩ := exists_blank cs
    obtain ⟨body, isBody, inside⟩ := parts.fields reads
    rw [isBody] at whole
    exact ⟨'\x7b' :: (before ++ body ++ ['\x7d']), by simp [whole], .object (inside.padded blank)⟩
  | number reads =>
    obtain ⟨whole, isNumber⟩ := isNumber_of_readNumber reads
    exact ⟨_, whole, .number isNumber⟩
  | word reads => exact spells_of_readWord reads

/-- With any fuel only what is spelled is read. -/
theorem readsOnlySpelled (fuel : Nat) : ReadsOnlySpelled fuel := by
  -- The parts of a value are read with one unit of fuel less, whichever of the three readers is at work.
  induction fuel with
  | zero =>
    constructor <;> intro cs rest found reads
    · cases reads
    · cases reads
    · cases reads
  | succ fuel inductionHypothesis =>
    constructor <;> intro cs rest found reads
    · exact inductionHypothesis.readsValue (readsValue_of_readValue reads)
    · obtain ⟨value, left, readsValue, ends⟩ := readElements_iff.1 reads
      obtain ⟨text, rfl, spells⟩ := inductionHypothesis.value readsValue
      rcases ends with ⟨closes, rfl⟩ | ⟨later, others, goesOn, readsOthers, rfl⟩
      · obtain ⟨whole, same, stands⟩ := spells.stands_of_skip closes
        exact ⟨whole, same, .last stands⟩
      · obtain ⟨whole, same, stands⟩ := spells.stands_of_skip goesOn
        obtain ⟨body, isBody, inside⟩ := inductionHypothesis.elements readsOthers
        obtain ⟨before, blank, isLater⟩ := exists_blank later
        refine ⟨whole ++ ',' :: (before ++ body), ?_, .more stands (inside.padded blank)⟩
        rw [same, isLater, isBody]
        simp
    · obtain ⟨front, name, between, later, value, left, rfl, readsName, isColon, readsValue, ends⟩ :=
        readFields_iff.1 reads
      obtain ⟨nameText, isFront, isName⟩ := spellsText_of_readText readsName
      obtain ⟨after, blankAfter, isBetween⟩ := exists_blank between
      obtain ⟨text, isText, spells⟩ := inductionHypothesis.value readsValue
      obtain ⟨pad, blankPad, isLater⟩ := exists_blank later
      rcases ends with ⟨closes, rfl⟩ | ⟨behind, others, goesOn, readsOthers, rfl⟩
      · obtain ⟨whole, same, stands⟩ := spells.stands_of_skip closes
        refine ⟨_, ?_, .last (List.forall_mem_nil _) isName blankAfter (stands.padded blankPad)⟩
        rw [isFront, isBetween, isColon, isLater, isText, same]
        simp
      · obtain ⟨whole, same, stands⟩ := spells.stands_of_skip goesOn
        obtain ⟨body, isBody, inside⟩ := inductionHypothesis.fields readsOthers
        obtain ⟨before, blank, isBehind⟩ := exists_blank behind
        refine ⟨_, ?_, .more (List.forall_mem_nil _) isName blankAfter (stands.padded blankPad)
          (inside.padded blank)⟩
        rw [isFront, isBetween, isColon, isLater, isText, same, isBehind, isBody]
        simp

/-! ## All that is spelled is read -/

/-- Blanks do not continue a number. -/
theorem Blank.ends (blank : Blank after) (ends : Ends rest) : Ends (after ++ rest) := by
  cases after with
  | nil => exact ends
  | cons c others =>
    intro first isFirst
    cases isFirst
    rcases isBlank_iff.1 (blank c List.mem_cons_self) with rfl | rfl | rfl | rfl <;> decide

/-- The marks behind a value. -/
def IsMark (c : Char) : Prop := c = ',' ∨ c = ']' ∨ c = '\x7d'

/-- What goes on behind a value is not blank and does not continue a number. -/
theorem IsMark.ends (isMark : IsMark c) (rest : List Char) :
    isBlank c = false ∧ Ends (c :: rest) := by
  rcases isMark with rfl | rfl | rfl <;>
    exact ⟨rfl, fun first isFirst => by cases isFirst; decide⟩

/-- A text begins with a quote. -/
theorem SpellsText.front (isText : SpellsText name text) : ∃ others, text = '"' :: others := by
  obtain ⟨body, rfl, -⟩ := isText.readText
  exact ⟨body, rfl⟩

/-- A value begins neither with a blank nor with a closing bracket. -/
theorem Spells.front (spells : Spells value text) :
    ∃ c others, text = c :: others ∧ isBlank c = false ∧ c ≠ ']' := by
  cases spells with
  | number isNumber =>
    obtain ⟨c, others, rfl, isFront⟩ := isNumber.front
    refine ⟨c, others, rfl, ?_, ?_⟩
    · by_contra notBlank
      rcases isBlank_iff.1 (Bool.of_not_eq_false notBlank) with rfl | rfl | rfl | rfl <;>
        revert isFront <;> decide
    · rintro rfl
      revert isFront
      decide
  | string isText =>
    obtain ⟨others, rfl⟩ := isText.front
    exact ⟨_, others, rfl, rfl, by decide⟩
  | null | yes | no | empty | array | bare | object => exact ⟨_, _, rfl, rfl, by decide⟩

/-- The blanks in front of a value are skipped, and those behind it are left. -/
theorem Stands.skip (stands : Stands value cs) :
    ∃ text after, Spells value text ∧ Blank after ∧ text.length ≤ cs.length ∧
      ∀ rest, skipBlanks (cs ++ rest) = text ++ (after ++ rest) := by
  obtain @⟨_, before, text, after, blankBefore, spells, blankAfter⟩ := stands
  refine ⟨text, after, spells, blankAfter, by simp; omega, fun rest => ?_⟩
  obtain ⟨c, others, rfl, noBlank, -⟩ := spells.front
  simpa using blankBefore.skip noBlank (others ++ (after ++ rest))

/-- Elements do not begin with a closing bracket. -/
theorem SpellsElements.front (inside : SpellsElements elements body) (rest : List Char) :
    (skipBlanks (body ++ rest)).head? ≠ some ']' := by
  have first (value : Value) (cs others : List Char) (stands : Stands value cs) :
      (skipBlanks (cs ++ others)).head? ≠ some ']' := by
    obtain ⟨text, after, spells, -, -, skips⟩ := stands.skip
    obtain ⟨c, others, rfl, -, noBracket⟩ := spells.front
    rw [skips]
    exact fun isBracket => noBracket (Option.some.inj isBracket)
  cases inside with
  | last stands => exact first _ _ _ stands
  | more stands others =>
    rw [List.append_assoc]
    exact first _ _ _ stands

/-- Fields begin with a quote. -/
theorem SpellsFields.front (inside : SpellsFields fields body) (rest : List Char) :
    (skipBlanks (body ++ rest)).head? = some '"' := by
  cases inside with
  | last blankBefore isName | more blankBefore isName =>
    obtain ⟨others, rfl⟩ := isName.front
    rw [List.append_assoc, List.cons_append, List.cons_append, blankBefore.skip rfl]
    rfl

/-- What is spelled is read with some fuel, if this is enough for its length. -/
structure ReadsSpelled (fuel : Nat) : Prop where
  /-- A value is. -/
  value {value : Value} {text rest : List Char} : Spells value text → Ends rest →
    2 * text.length ≤ fuel → readValue fuel (text ++ rest) = some (value, rest)
  /-- Elements are, up to the bracket. -/
  elements {elements : List Value} {body rest : List Char} : SpellsElements elements body →
    2 * body.length < fuel →
      readElements fuel (skipBlanks (body ++ ']' :: rest)) = some (elements, rest)
  /-- Fields are, up to the brace. -/
  fields {fields : List (Option String × Value)} {body rest : List Char} : SpellsFields fields body →
    2 * body.length < fuel →
      readFields fuel (skipBlanks (body ++ '\x7d' :: rest)) = some (fields, rest)

/-- A value between blanks is read up to the mark behind it. -/
theorem ReadsSpelled.stands (reads : ReadsSpelled fuel) (stands : Stands value cs)
    (enough : 2 * cs.length ≤ fuel) (isMark : IsMark c) (rest : List Char) :
    ∃ left, readValue fuel (skipBlanks (cs ++ c :: rest)) = some (value, left) ∧
      skipBlanks left = c :: rest := by
  obtain ⟨text, after, spells, blank, short, skips⟩ := stands.skip
  obtain ⟨noBlank, ends⟩ := isMark.ends rest
  rw [skips]
  exact ⟨_, reads.value spells (blank.ends ends) (by omega), blank.skip noBlank rest⟩

/-- A value is read in its way, if its parts are read. Only a number could go on behind its end. -/
theorem ReadsSpelled.readsValue (parts : ReadsSpelled fuel) (spells : Spells value text)
    (ends : ∀ written, value = .number written → Ends rest) (enough : 2 * text.length ≤ fuel + 1) :
    ReadsValue fuel (text ++ rest) value rest := by
  cases spells with
  | null | yes | no => exact .word rfl
  | number isNumber => exact .number (isNumber.readNumber (ends _ rfl))
  | string isText =>
    obtain ⟨body, rfl, readsText⟩ := isText.readText
    exact .string (readsText rest)
  | empty blank =>
    refine .empty ?_
    simpa using blank.skip (c := ']') rfl rest
  | array inside =>
    simp only [List.length_cons, List.length_append] at enough
    rw [List.cons_append, List.append_assoc, List.singleton_append]
    exact .array (inside.front _) (parts.elements inside (by omega))
  | bare blank =>
    refine .bare ?_
    simpa using blank.skip (c := '\x7d') rfl rest
  | object inside =>
    simp only [List.length_cons, List.length_append] at enough
    rw [List.cons_append, List.append_assoc, List.singleton_append]
    refine .object ?_ (parts.fields inside (by omega))
    rw [inside.front]
    decide

/-- With enough fuel all that is spelled is read. -/
theorem readsSpelled (fuel : Nat) : ReadsSpelled fuel := by
  -- Every step to a part takes one unit. It passes a character that the bound counts twice, which leaves
  -- one more for the step from a list of parts to its first one.
  induction fuel with
  | zero =>
    constructor
    · intro value text rest spells ends enough
      obtain ⟨c, others, rfl, -⟩ := spells.front
      simp at enough
    · intro elements body rest inside enough
      exact absurd enough (Nat.not_lt_zero _)
    · intro fields body rest inside enough
      exact absurd enough (Nat.not_lt_zero _)
  | succ fuel inductionHypothesis =>
    constructor
    · intro value text rest spells ends enough
      exact (inductionHypothesis.readsValue spells (fun _ _ => ends) enough).readValue
    · intro elements body rest inside enough
      refine readElements_iff.2 ?_
      cases inside with
      | last stands =>
        obtain ⟨left, reads, closes⟩ :=
          inductionHypothesis.stands stands (by omega) (.inr (.inl rfl)) rest
        exact ⟨_, left, reads, .inl ⟨closes, rfl⟩⟩
      | @more element elements cs body stands others =>
        simp only [List.length_cons, List.length_append] at enough
        obtain ⟨left, reads, goesOn⟩ :=
          inductionHypothesis.stands stands (by omega) (.inl rfl) (body ++ ']' :: rest)
        rw [List.append_assoc, List.cons_append]
        exact ⟨_, left, reads, .inr ⟨_, elements, goesOn,
          inductionHypothesis.elements others (by omega), rfl⟩⟩
    · intro fields body rest inside enough
      refine readFields_iff.2 ?_
      cases inside with
      | @last name value before front after cs blankBefore isName blankAfter stands =>
        simp only [List.length_cons, List.length_append] at enough
        obtain ⟨begin, rfl, readsName⟩ := isName.readText
        obtain ⟨left, reads, closes⟩ :=
          inductionHypothesis.stands stands (by omega) (.inr (.inr rfl)) rest
        simp only [List.append_assoc, List.cons_append, blankBefore.skip (c := '"') rfl]
        exact ⟨_, name, _, _, value, left, rfl, readsName _, blankAfter.skip rfl _, reads,
          .inl ⟨closes, rfl⟩⟩
      | @more name value fields before front after cs body blankBefore isName blankAfter stands others =>
        simp only [List.length_cons, List.length_append] at enough
        obtain ⟨begin, rfl, readsName⟩ := isName.readText
        obtain ⟨left, reads, goesOn⟩ :=
          inductionHypothesis.stands stands (by omega) (.inl rfl) (body ++ '\x7d' :: rest)
        simp only [List.append_assoc, List.cons_append, blankBefore.skip (c := '"') rfl]
        exact ⟨_, name, _, _, value, left, rfl, readsName _, blankAfter.skip rfl _, reads,
          .inr ⟨_, fields, goesOn, inductionHypothesis.fields others (by omega), rfl⟩⟩

/-! ## Whole texts -/

/-- A text is read as the value that it stands for, and as nothing else. -/
theorem read?_eq_some_iff : Value.read? cs = some value ↔ Stands value cs := by
  unfold Value.read?
  constructor
  · intro isRead
    split at isRead
    · next found rest reads =>
      split_ifs at isRead with blank
      cases isRead
      obtain ⟨before, blankBefore, whole⟩ := exists_blank cs
      obtain ⟨after, blankAfter, isRest⟩ := exists_blank rest
      obtain ⟨text, isText, spells⟩ := (readsOnlySpelled _).value reads
      rw [List.isEmpty_iff.1 blank, List.append_nil] at isRest
      rw [whole, isText, isRest]
      exact .intro blankBefore spells blankAfter
    · cases isRead
  · intro stands
    obtain ⟨text, after, spells, blank, short, skips⟩ := stands.skip
    have skipped : skipBlanks cs = text ++ after := by simpa using skips []
    have none : Ends [] := fun c isFirst => by cases isFirst
    have ends : Ends after := by simpa using blank.ends none
    have allSkipped : skipBlanks after = [] := List.dropWhile_eq_nil_iff.2 blank
    rw [skipped, (readsSpelled _).value spells ends (by omega)]
    simp only [allSkipped, List.isEmpty_nil, if_true]

/-- A value that begins as a number is one. -/
theorem Spells.exists_number (spells : Spells value (c :: cs)) (isFront : c = '-' ∨ c.isDigit = true) :
    ∃ written, value = .number written := by
  cases spells with
  | number => exact ⟨_, rfl⟩
  | string isText =>
    obtain ⟨others, same⟩ := isText.front
    obtain ⟨rfl, -⟩ := List.cons.inj same
    exact absurd isFront (by decide)
  | null | yes | no | empty | array | bare | object => exact absurd isFront (by decide)

/-- With anything but blanks behind it, a text stands for nothing, or it is a number that goes on. -/
theorem Stands.trailing (stands : Stands value cs) (more : ∃ c ∈ tail, isBlank c = false)
    (standsToo : Stands other (cs ++ tail)) : ∃ written, other = .number written := by
  obtain ⟨text, after, spells, blank, short, skips⟩ := stands.skip
  by_cases isNumber : ∃ written, value = .number written
  · -- A number may go on behind its end, but then the whole is a number again.
    obtain ⟨written, rfl⟩ := isNumber
    obtain ⟨textToo, afterToo, spellsToo, -, -, skipsToo⟩ := standsToo.skip
    have same : textToo ++ (afterToo ++ []) = text ++ (after ++ tail) := by
      rw [← skips, ← skipsToo, List.append_nil]
    obtain ⟨c, others, rfl, -⟩ := spellsToo.front
    cases spells with
    | number isNumber =>
      obtain ⟨first, later, rfl, isFront⟩ := isNumber.front
      obtain ⟨rfl, -⟩ := List.cons.inj same
      exact spellsToo.exists_number isFront
  · exfalso
    have reads : ReadsValue (2 * (cs ++ tail).length) (text ++ (after ++ tail)) value (after ++ tail) := by
      refine (readsSpelled _).readsValue spells (fun written isWritten => ?_) ?_
      · exact absurd ⟨written, isWritten⟩ isNumber
      · rw [List.length_append]
        omega
    have isRead := read?_eq_some_iff.2 standsToo
    rw [Value.read?, skips, reads.readValue] at isRead
    dsimp only at isRead
    split_ifs at isRead with isEmpty
    have allBlank : Blank (after ++ tail) := List.dropWhile_eq_nil_iff.1 (List.isEmpty_iff.1 isEmpty)
    obtain ⟨c, isIn, noBlank⟩ := more
    exact absurd (allBlank c (List.mem_append_right _ isIn)) (by simp [noBlank])

/-- A text stands for one value at most. -/
theorem Stands.unique (stands : Stands value cs) (standsToo : Stands other cs) : value = other :=
  Option.some.inj ((read?_eq_some_iff.2 stands).symm.trans (read?_eq_some_iff.2 standsToo))

end NodeScaler.Json
