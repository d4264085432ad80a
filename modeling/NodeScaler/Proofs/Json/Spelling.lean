import Mathlib.Data.List.TakeWhile
import NodeScaler.Json.Reader

/-!
# How values are spelled

What a JSON text is, said by its grammar and without following a reader: texts with all their escapes,
numbers, and values with blanks wherever there may be some. The readers of texts and numbers take just
what is spelled so. A text is a row of characters and 16-bit units, and what it stands for is decided by
UTF-16: a unit alone or a pair of surrogates is a character, and an unpaired surrogate is none.
-/

namespace NodeScaler.Json

/-! ## The grammar -/

/-- Nothing but blanks. -/
def Blank (cs : List Char) : Prop := ∀ c ∈ cs, isBlank c = true

/-- How pieces stand between the quotes of a text. -/
inductive Lexes : List Piece → List Char → Prop where
  /-- Nothing is left. -/
  | nil : Lexes [] []
  /-- A character stands for itself. -/
  | plain {c : Char} {pieces : List Piece} {body : List Char} (noQuote : c ≠ '"')
      (noBackslash : c ≠ '\\') (noControl : ¬c.toNat < 32) (others : Lexes pieces body) :
      Lexes (.char c :: pieces) (c :: body)
  /-- A letter behind a backslash stands for a character. -/
  | letter {letter c : Char} {pieces : List Piece} {body : List Char}
      (stands : escape? letter = some c) (others : Lexes pieces body) :
      Lexes (.char c :: pieces) ('\\' :: letter :: body)
  /-- Four digits behind a backslash and a `u` stand for a unit. -/
  | unit {a b c d : Char} {value : Nat} {pieces : List Piece} {body : List Char}
      (stands : unit? a b c d = some value) (others : Lexes pieces body) :
      Lexes (.unit value :: pieces) ('\\' :: 'u' :: a :: b :: c :: d :: body)

/-- The characters that pieces stand for. -/
inductive Joins : List Piece → List Char → Prop where
  /-- Nothing is left. -/
  | nil : Joins [] []
  /-- A character. -/
  | char (c : Char) {pieces : List Piece} {characters : List Char}
      (others : Joins pieces characters) : Joins (.char c :: pieces) (c :: characters)
  /-- A unit is the character of its number. -/
  | unit (c : Char) {pieces : List Piece} {characters : List Char}
      (others : Joins pieces characters) : Joins (.unit c.toNat :: pieces) (c :: characters)
  /-- Two units are a character beyond 16 bits: they hold ten bits each of what its number has in
  excess. -/
  | pair (c : Char) {excess : Nat} {pieces : List Piece} {characters : List Char}
      (beyond : c.toNat = 0x10000 + excess) (others : Joins pieces characters) :
      Joins (.unit (0xD800 + excess / 0x400) :: .unit (0xDC00 + excess % 0x400) :: pieces)
        (c :: characters)

/-- A text between its quotes. -/
inductive SpellsText : Option String → List Char → Prop where
  /-- It stands for characters. -/
  | joined {text : String} {pieces : List Piece} {body : List Char} (lexes : Lexes pieces body)
      (joins : Joins pieces text.toList) : SpellsText (some text) ('"' :: (body ++ ['"']))
  /-- It stands for none, because a surrogate in it has no partner. -/
  | broken {pieces : List Piece} {body : List Char} (lexes : Lexes pieces body)
      (unpaired : ∀ characters, ¬Joins pieces characters) : SpellsText none ('"' :: (body ++ ['"']))

/-- One digit or more. -/
structure AreDigits (cs : List Char) : Prop where
  /-- There is one. -/
  nonempty : cs ≠ []
  /-- There is nothing else. -/
  all : ∀ c ∈ cs, c.isDigit = true

/-- The part of a number in front of the point. -/
inductive IsWhole : List Char → Prop where
  /-- A zero stands alone. -/
  | zero : IsWhole ['0']
  /-- Other digits do not begin with one. -/
  | digits {digits : List Char} (areDigits : AreDigits digits) (noZero : digits.head? ≠ some '0') :
      IsWhole digits

/-- The point of a number, and what follows it. -/
inductive IsFraction : List Char → Prop where
  /-- There is none. -/
  | absent : IsFraction []
  /-- Digits follow the point. -/
  | present {digits : List Char} (areDigits : AreDigits digits) : IsFraction ('.' :: digits)

/-- The exponent of a number. -/
inductive IsExponent : List Char → Prop where
  /-- There is none. -/
  | absent : IsExponent []
  /-- Digits follow the letter, with a sign or without one. -/
  | present {mark : Char} {sign digits : List Char} (isMark : mark = 'e' ∨ mark = 'E')
      (isSign : sign = [] ∨ sign = ['+'] ∨ sign = ['-']) (areDigits : AreDigits digits) :
      IsExponent (mark :: (sign ++ digits))

/-- A number. -/
inductive IsNumber : List Char → Prop where
  /-- Its parts, one after the other. -/
  | intro {sign whole fraction exponent : List Char} (isSign : sign = [] ∨ sign = ['-'])
      (isWhole : IsWhole whole) (isFraction : IsFraction fraction)
      (isExponent : IsExponent exponent) : IsNumber (sign ++ (whole ++ (fraction ++ exponent)))

mutual

/-- A value as it is spelled. -/
inductive Spells : Value → List Char → Prop where
  /-- The empty value. -/
  | null : Spells .null ['n', 'u', 'l', 'l']
  /-- What is true. -/
  | yes : Spells (.boolean true) ['t', 'r', 'u', 'e']
  /-- What is false. -/
  | no : Spells (.boolean false) ['f', 'a', 'l', 's', 'e']
  /-- A number is kept as it is spelled. -/
  | number {written : List Char} (isNumber : IsNumber written) : Spells (.number written) written
  /-- A text. -/
  | string {value : Option String} {cs : List Char} (isText : SpellsText value cs) :
      Spells (.string value) cs
  /-- An array without elements. -/
  | empty {blanks : List Char} (blank : Blank blanks) :
      Spells (.array []) ('[' :: (blanks ++ [']']))
  /-- An array with elements. -/
  | array {elements : List Value} {body : List Char} (inside : SpellsElements elements body) :
      Spells (.array elements) ('[' :: (body ++ [']']))
  /-- An object without fields. -/
  | bare {blanks : List Char} (blank : Blank blanks) :
      Spells (.object []) ('\x7b' :: (blanks ++ ['\x7d']))
  /-- An object with fields. -/
  | object {fields : List (Option String × Value)} {body : List Char}
      (inside : SpellsFields fields body) : Spells (.object fields) ('\x7b' :: (body ++ ['\x7d']))

/-- A value between blanks. This is what a JSON text is as a whole. -/
inductive Stands : Value → List Char → Prop where
  /-- Blanks may come before and after. -/
  | intro {value : Value} {before cs after : List Char} (blankBefore : Blank before)
      (spells : Spells value cs) (blankAfter : Blank after) : Stands value (before ++ (cs ++ after))

/-- The elements of an array, with commas between them. -/
inductive SpellsElements : List Value → List Char → Prop where
  /-- The last element. -/
  | last {element : Value} {cs : List Char} (stands : Stands element cs) :
      SpellsElements [element] cs
  /-- An element and others. -/
  | more {element : Value} {elements : List Value} {cs body : List Char}
      (stands : Stands element cs) (others : SpellsElements elements body) :
      SpellsElements (element :: elements) (cs ++ ',' :: body)

/-- The fields of an object, with commas between them. -/
inductive SpellsFields : List (Option String × Value) → List Char → Prop where
  /-- The last field. -/
  | last {name : Option String} {value : Value} {before front after cs : List Char}
      (blankBefore : Blank before) (isName : SpellsText name front) (blankAfter : Blank after)
      (stands : Stands value cs) :
      SpellsFields [(name, value)] (before ++ (front ++ (after ++ ':' :: cs)))
  /-- A field and others. -/
  | more {name : Option String} {value : Value} {fields : List (Option String × Value)}
      {before front after cs body : List Char} (blankBefore : Blank before)
      (isName : SpellsText name front) (blankAfter : Blank after) (stands : Stands value cs)
      (others : SpellsFields fields body) :
      SpellsFields ((name, value) :: fields)
        (before ++ (front ++ (after ++ ':' :: (cs ++ ',' :: body))))

end

/-! ## Texts -/

variable {pieces : List Piece} {body characters cs taken rest : List Char} {value : Option String}

/-- The closing quote. -/
theorem readPieces_quote (rest : List Char) : readPieces ('"' :: rest) = some ([], rest) := by
  rw [readPieces.eq_def]
  rfl

/-- A letter behind a backslash. -/
theorem readPieces_letter {letter c : Char} (isLetter : escape? letter = some c)
    (differs : letter ≠ 'u') (rest : List Char) :
    readPieces ('\\' :: letter :: rest) =
      (readPieces rest).map fun (pieces, rest) => (.char c :: pieces, rest) := by
  rw [readPieces.eq_def]
  simp only [Char.reduceEq, if_false, if_true, if_neg differs, isLetter]
  cases readPieces rest <;> rfl

/-- Four digits behind a backslash and a `u`. -/
theorem readPieces_unit {a b c d : Char} {code : Nat} (isCode : unit? a b c d = some code)
    (rest : List Char) :
    readPieces ('\\' :: 'u' :: a :: b :: c :: d :: rest) =
      (readPieces rest).map fun (pieces, rest) => (.unit code :: pieces, rest) := by
  rw [readPieces.eq_def]
  simp only [Char.reduceEq, if_false, if_true, isCode]
  cases readPieces rest <;> rfl

/-- A character that stands for itself. -/
theorem readPieces_plain {c : Char} (noQuote : c ≠ '"') (noBackslash : c ≠ '\\')
    (noControl : ¬c.toNat < 32) (rest : List Char) :
    readPieces (c :: rest) =
      (readPieces rest).map fun (pieces, rest) => (.char c :: pieces, rest) := by
  rw [readPieces.eq_def]
  simp only [if_neg noQuote, if_neg noBackslash, if_neg noControl]
  cases readPieces rest <;> rfl

/-- Pieces are read up to the closing quote. -/
theorem Lexes.readPieces (lexes : Lexes pieces body) (rest : List Char) :
    readPieces (body ++ '"' :: rest) = some (pieces, rest) := by
  induction lexes with
  | nil => exact readPieces_quote rest
  | plain noQuote noBackslash noControl others inductionHypothesis =>
    rw [List.cons_append, readPieces_plain noQuote noBackslash noControl, inductionHypothesis]
    rfl
  | @letter letter c pieces body stands others inductionHypothesis =>
    have differs : letter ≠ 'u' := by
      rintro rfl
      cases stands
    rw [List.cons_append, List.cons_append, readPieces_letter stands differs, inductionHypothesis]
    rfl
  | unit stands others inductionHypothesis =>
    simp only [List.cons_append]
    rw [readPieces_unit stands, inductionHypothesis]
    rfl

/-- Only pieces are read. -/
theorem lexes_of_readPieces (reads : readPieces cs = some (pieces, rest)) :
    ∃ body, cs = body ++ '"' :: rest ∧ Lexes pieces body := by
  fun_induction readPieces cs generalizing pieces with
  | case2 => cases reads; exact ⟨[], rfl, .nil⟩
  | case4 a b c d cs _ inductionHypothesis =>
    obtain ⟨value, isUnit, reads⟩ := Option.bind_eq_some_iff.1 reads
    obtain ⟨⟨others, left⟩, readsOthers, same⟩ := Option.bind_eq_some_iff.1 reads
    cases same
    obtain ⟨body, rfl, lexes⟩ := inductionHypothesis readsOthers
    exact ⟨_, rfl, .unit isUnit lexes⟩
  | case6 letter cs _ _ inductionHypothesis =>
    obtain ⟨c, stands, reads⟩ := Option.bind_eq_some_iff.1 reads
    obtain ⟨⟨others, left⟩, readsOthers, same⟩ := Option.bind_eq_some_iff.1 reads
    cases same
    obtain ⟨body, rfl, lexes⟩ := inductionHypothesis readsOthers
    exact ⟨_, rfl, .letter stands lexes⟩
  | case8 c cs noQuote noBackslash noControl inductionHypothesis =>
    obtain ⟨⟨others, left⟩, readsOthers, same⟩ := Option.bind_eq_some_iff.1 reads
    cases same
    obtain ⟨body, rfl, lexes⟩ := inductionHypothesis readsOthers
    exact ⟨_, rfl, .plain noQuote noBackslash noControl lexes⟩
  | case1 | case3 | case5 | case7 => cases reads

/-- A hexadecimal digit is below sixteen. -/
theorem hexValue?_lt {c : Char} {digit : Nat} (isDigit : hexValue? c = some digit) : digit < 16 := by
  simp only [hexValue?, Char.le_def, Char.toNat, UInt32.le_iff_toNat_le, Char.reduceVal,
    UInt32.reduceToNat] at isDigit
  split_ifs at isDigit with isNumeral isSmall isCapital <;> cases isDigit <;> omega

/-- Units have sixteen bits. -/
theorem unit?_lt {a b c d : Char} {unit : Nat} (isUnit : unit? a b c d = some unit) :
    unit < 0x10000 := by
  obtain ⟨first, isFirst, isUnit⟩ := Option.bind_eq_some_iff.1 isUnit
  obtain ⟨second, isSecond, isUnit⟩ := Option.bind_eq_some_iff.1 isUnit
  obtain ⟨third, isThird, isUnit⟩ := Option.bind_eq_some_iff.1 isUnit
  obtain ⟨fourth, isFourth, isUnit⟩ := Option.bind_eq_some_iff.1 isUnit
  have bounds := And.intro (hexValue?_lt isFirst) (hexValue?_lt isSecond)
  have boundsToo := And.intro (hexValue?_lt isThird) (hexValue?_lt isFourth)
  cases isUnit
  omega

/-- So have those in a text. -/
theorem Lexes.unit_lt (lexes : Lexes pieces body) :
    ∀ unit, Piece.unit unit ∈ pieces → unit < 0x10000 := by
  induction lexes with
  | nil => simp
  | plain _ _ _ _ inductionHypothesis | letter _ _ inductionHypothesis => simpa using inductionHypothesis
  | unit stands _ inductionHypothesis => simpa using ⟨unit?_lt stands, inductionHypothesis⟩

/-- A unit that is the number of a character is no surrogate. -/
theorem joined?_unit (c : Char) (pieces : List Piece) :
    joined? (.unit c.toNat :: pieces) = (joined? pieces).map (c :: ·) := by
  have noSurrogate : ¬isHigh c.toNat = true ∧ ¬isLow c.toNat = true := by
    have valid : c.toNat < 0xD800 ∨ 0xDFFF < c.toNat ∧ c.toNat < 0x110000 := c.valid
    simp only [isHigh, isLow, Bool.and_eq_true, decide_eq_true_eq]
    omega
  rw [joined?.eq_def]
  simp only [if_neg noSurrogate.1, if_neg noSurrogate.2, Char.ofNat_toNat]

/-- Two surrogates are a character beyond sixteen bits. -/
theorem joined?_pair {c : Char} {excess : Nat} (beyond : c.toNat = 0x10000 + excess)
    (pieces : List Piece) :
    joined? (.unit (0xD800 + excess / 0x400) :: .unit (0xDC00 + excess % 0x400) :: pieces) =
      (joined? pieces).map (c :: ·) := by
  have valid : c.toNat < 0xD800 ∨ 0xDFFF < c.toNat ∧ c.toNat < 0x110000 := c.valid
  have isPair : isHigh (0xD800 + excess / 0x400) = true ∧ isLow (0xDC00 + excess % 0x400) = true := by
    simp only [isHigh, isLow, Bool.and_eq_true, decide_eq_true_eq]
    omega
  have number : 0x10000 + (0xD800 + excess / 0x400 - 0xD800) * 0x400 +
      (0xDC00 + excess % 0x400 - 0xDC00) = c.toNat := by
    omega
  rw [joined?.eq_def]
  simp only [if_pos isPair.1, if_pos isPair.2, number, Char.ofNat_toNat]

/-- What pieces stand for is found. -/
theorem Joins.joined? (joins : Joins pieces characters) : joined? pieces = some characters := by
  induction joins with
  | nil => rfl
  | char c _ inductionHypothesis => rw [Json.joined?, inductionHypothesis]; rfl
  | unit c _ inductionHypothesis => rw [joined?_unit, inductionHypothesis]; rfl
  | pair c beyond _ inductionHypothesis => rw [joined?_pair beyond, inductionHypothesis]; rfl

/-- The character of a valid number has this number. -/
theorem toNat_ofNat {number : Nat} (valid : number.isValidChar) :
    (Char.ofNat number).toNat = number := by
  rw [Char.ofNat, dif_pos valid]
  rfl

/-- Nothing else is found in units of sixteen bits. -/
theorem joins_of_joined? (joined : joined? pieces = some characters)
    (bounded : ∀ unit, Piece.unit unit ∈ pieces → unit < 0x10000) : Joins pieces characters := by
  fun_induction joined? pieces generalizing characters with
  | case1 => cases joined; exact .nil
  | case2 c pieces inductionHypothesis =>
    obtain ⟨others, joinsOthers, rfl⟩ := Option.map_eq_some_iff.1 joined
    exact .char c (inductionHypothesis joinsOthers fun unit isIn =>
      bounded unit (List.mem_cons_of_mem _ isIn))
  | case3 high isHigh low pieces isLow inductionHypothesis =>
    obtain ⟨others, joinsOthers, rfl⟩ := Option.map_eq_some_iff.1 joined
    have joins := inductionHypothesis joinsOthers fun unit isIn =>
      bounded unit (List.mem_cons_of_mem _ (List.mem_cons_of_mem _ isIn))
    simp only [Json.isHigh, Json.isLow, Bool.and_eq_true, decide_eq_true_eq] at isHigh isLow
    -- Each surrogate has ten bits to give.
    obtain ⟨excess, isExcess⟩ : ∃ excess, excess = (high - 0xD800) * 0x400 + (low - 0xDC00) :=
      ⟨_, rfl⟩
    have isFirst : high = 0xD800 + excess / 0x400 := by omega
    have isSecond : low = 0xDC00 + excess % 0x400 := by omega
    have number : 0x10000 + (high - 0xD800) * 0x400 + (low - 0xDC00) = 0x10000 + excess := by omega
    have beyond := toNat_ofNat (show (0x10000 + excess).isValidChar by simp only [Nat.isValidChar]; omega)
    rw [number, isFirst, isSecond]
    exact .pair _ beyond joins
  | case7 unit pieces noHigh noLow inductionHypothesis =>
    obtain ⟨others, joinsOthers, rfl⟩ := Option.map_eq_some_iff.1 joined
    have joins := inductionHypothesis joinsOthers fun other isIn =>
      bounded other (List.mem_cons_of_mem _ isIn)
    have below := bounded unit List.mem_cons_self
    simp only [isHigh, isLow, Bool.and_eq_true, decide_eq_true_eq] at noHigh noLow
    have stands := Joins.unit (Char.ofNat unit) joins
    rwa [toNat_ofNat (by simp only [Nat.isValidChar]; omega)] at stands
  | case4 | case5 | case6 => cases joined

/-- The pieces of a text stand for characters just if these are found in them. -/
theorem Lexes.joined?_eq_some_iff (lexes : Lexes pieces body) :
    joined? pieces = some characters ↔ Joins pieces characters :=
  ⟨fun joined => joins_of_joined? joined lexes.unit_lt, Joins.joined?⟩

/-- Between quotes pieces are the text that is found in them. -/
theorem Lexes.spellsText (lexes : Lexes pieces body) :
    SpellsText ((joined? pieces).map String.ofList) ('"' :: (body ++ ['"'])) := by
  cases joined : joined? pieces with
  | none =>
    refine .broken lexes fun characters joins => ?_
    rw [joins.joined?] at joined
    cases joined
  | some characters =>
    refine .joined lexes ?_
    rw [String.toList_ofList]
    exact lexes.joined?_eq_some_iff.1 joined

/-- A text is read up to its closing quote. -/
theorem SpellsText.readText (isText : SpellsText value cs) :
    ∃ body, cs = '"' :: body ∧ ∀ rest, readText (body ++ rest) = some (value, rest) := by
  cases isText with
  | @joined text pieces body lexes joins =>
    refine ⟨_, rfl, fun rest => ?_⟩
    rw [List.append_assoc, List.singleton_append, Json.readText, lexes.readPieces]
    change some ((joined? pieces).map String.ofList, rest) = _
    rw [joins.joined?, Option.map_some, String.ofList_toList]
  | @broken pieces body lexes unpaired =>
    have isNone : joined? pieces = none := by
      rw [Option.eq_none_iff_forall_ne_some]
      exact fun characters joined => unpaired characters (lexes.joined?_eq_some_iff.1 joined)
    refine ⟨_, rfl, fun rest => ?_⟩
    rw [List.append_assoc, List.singleton_append, Json.readText, lexes.readPieces]
    change some ((joined? pieces).map String.ofList, rest) = _
    rw [isNone]
    rfl

/-- Only texts are read. -/
theorem spellsText_of_readText (reads : readText cs = some (value, rest)) :
    ∃ text, '"' :: cs = text ++ rest ∧ SpellsText value text := by
  obtain ⟨⟨pieces, left⟩, readsPieces, same⟩ := Option.bind_eq_some_iff.1 reads
  cases same
  obtain ⟨body, rfl, lexes⟩ := lexes_of_readPieces readsPieces
  exact ⟨_, by simp, lexes.spellsText⟩

/-! ## Numbers -/

/-- Nothing that continues a number. -/
def Ends (rest : List Char) : Prop :=
  ∀ c ∈ rest.head?, c.isDigit = false ∧ c ≠ '.' ∧ c ≠ 'e' ∧ c ≠ 'E'

/-- Digits do not go on. -/
def NoDigit (rest : List Char) : Prop := ∀ c ∈ rest.head?, c.isDigit = false

variable {written others : List Char}

/-- Where a number ends, digits end too. -/
theorem Ends.noDigit (ends : Ends rest) : NoDigit rest := fun c isFirst => (ends c isFirst).1

/-- Digits are read as far as they go. -/
theorem AreDigits.readDigits (areDigits : AreDigits written) (noDigit : NoDigit rest) :
    readDigits (written ++ rest) = some (written, rest) := by
  have none : rest.takeWhile Char.isDigit = [] ∧ rest.dropWhile Char.isDigit = rest := by
    cases rest with
    | nil => exact ⟨rfl, rfl⟩
    | cons c later => simp [noDigit c rfl]
  have taken : (written ++ rest).takeWhile Char.isDigit = written := by
    rw [List.takeWhile_append_of_pos areDigits.all, none.1, List.append_nil]
  have left : (written ++ rest).dropWhile Char.isDigit = rest := by
    rw [List.dropWhile_append_of_pos areDigits.all, none.2]
  unfold Json.readDigits
  dsimp only
  rw [taken, left, if_neg (by simpa using areDigits.nonempty)]

/-- Only digits are read. -/
theorem areDigits_of_readDigits (reads : readDigits cs = some (written, rest)) :
    cs = written ++ rest ∧ AreDigits written := by
  unfold readDigits at reads
  dsimp only at reads
  split at reads
  · cases reads
  · next some =>
    cases reads
    exact ⟨List.takeWhile_append_dropWhile.symm, by simpa using some,
      fun c isIn => List.mem_takeWhile_imp isIn⟩

/-- The part in front of the point is read. -/
theorem IsWhole.readWhole (isWhole : IsWhole written) (noDigit : NoDigit rest) :
    readWhole (written ++ rest) = some (written, rest) := by
  cases isWhole with
  | zero => rfl
  | digits areDigits noZero =>
    obtain ⟨c, others, rfl⟩ := List.exists_cons_of_ne_nil areDigits.nonempty
    have differs : c ≠ '0' := by
      rintro rfl
      exact noZero rfl
    rw [← areDigits.readDigits noDigit, List.cons_append]
    unfold Json.readWhole
    split
    · next same => exact absurd (List.cons.inj same).1 differs
    · rfl

/-- Only such a part is read. -/
theorem isWhole_of_readWhole (reads : readWhole cs = some (written, rest)) :
    cs = written ++ rest ∧ IsWhole written := by
  unfold readWhole at reads
  split at reads
  · cases reads
    exact ⟨rfl, .zero⟩
  · next noZero =>
    obtain ⟨rfl, areDigits⟩ := areDigits_of_readDigits reads
    refine ⟨rfl, .digits areDigits fun isZero => ?_⟩
    obtain ⟨others, rfl⟩ := List.head?_eq_some_iff.1 isZero
    exact noZero _ rfl

/-- A fraction is read. -/
theorem IsFraction.readFraction (isFraction : IsFraction written) (noDigit : NoDigit rest)
    (noPoint : rest.head? ≠ some '.') : readFraction (written ++ rest) = some (written, rest) := by
  cases isFraction with
  | absent =>
    rw [List.nil_append]
    unfold Json.readFraction
    split
    · exact absurd rfl noPoint
    · rfl
  | @present digits areDigits =>
    change (readDigits (digits ++ rest)).bind _ = _
    rw [areDigits.readDigits noDigit]
    rfl

/-- Only a fraction is read. -/
theorem isFraction_of_readFraction (reads : readFraction cs = some (written, rest)) :
    cs = written ++ rest ∧ IsFraction written := by
  unfold readFraction at reads
  split at reads
  · obtain ⟨⟨digits, left⟩, readsDigits, same⟩ := Option.bind_eq_some_iff.1 reads
    cases same
    obtain ⟨rfl, areDigits⟩ := areDigits_of_readDigits readsDigits
    exact ⟨rfl, .present areDigits⟩
  · cases reads
    exact ⟨rfl, .absent⟩

/-- A sign in front of digits is read. -/
theorem readSign_append {sign digits : List Char}
    (isSign : sign = [] ∨ sign = ['+'] ∨ sign = ['-']) (areDigits : AreDigits digits)
    (rest : List Char) : readSign (sign ++ (digits ++ rest)) = (sign, digits ++ rest) := by
  rcases isSign with rfl | rfl | rfl
  · obtain ⟨c, others, rfl⟩ := List.exists_cons_of_ne_nil areDigits.nonempty
    have isDigit := areDigits.all c List.mem_cons_self
    rw [List.nil_append, List.cons_append]
    unfold readSign
    split
    · next same => rw [(List.cons.inj same).1] at isDigit; cases isDigit
    · next same => rw [(List.cons.inj same).1] at isDigit; cases isDigit
    · rfl
  · rfl
  · rfl

/-- Only a sign is read. -/
theorem isSign_of_readSign {sign : List Char} (reads : readSign cs = (sign, rest)) :
    cs = sign ++ rest ∧ (sign = [] ∨ sign = ['+'] ∨ sign = ['-']) := by
  unfold readSign at reads
  split at reads <;> cases reads <;> simp

/-- An exponent is read. -/
theorem IsExponent.readExponent (isExponent : IsExponent written) (ends : Ends rest) :
    readExponent (written ++ rest) = some (written, rest) := by
  cases isExponent with
  | absent =>
    cases rest with
    | nil => rfl
    | cons c later =>
      obtain ⟨-, -, noSmall, noLarge⟩ := ends c rfl
      simp [Json.readExponent, noSmall, noLarge]
  | @present mark sign digits isMark isSign areDigits =>
    rw [List.cons_append, Json.readExponent, if_pos isMark, List.append_assoc,
      readSign_append isSign areDigits]
    change (readDigits _).bind _ = _
    rw [areDigits.readDigits ends.noDigit]
    rfl

/-- Only an exponent is read. -/
theorem isExponent_of_readExponent (reads : readExponent cs = some (written, rest)) :
    cs = written ++ rest ∧ IsExponent written := by
  cases cs with
  | nil =>
    cases reads
    exact ⟨rfl, .absent⟩
  | cons c tail =>
    rw [readExponent] at reads
    split at reads
    · next isMark =>
      rcases signed : readSign tail with ⟨sign, left⟩
      rw [signed] at reads
      obtain ⟨⟨digits, more⟩, readsDigits, same⟩ := Option.bind_eq_some_iff.1 reads
      cases same
      obtain ⟨rfl, isSign⟩ := isSign_of_readSign signed
      obtain ⟨rfl, areDigits⟩ := areDigits_of_readDigits readsDigits
      exact ⟨by simp, .present isMark isSign areDigits⟩
    · cases reads
      exact ⟨rfl, .absent⟩

/-- An exponent goes on neither with a digit nor with a point. -/
theorem IsExponent.front (isExponent : IsExponent written) (ends : Ends rest) :
    NoDigit (written ++ rest) ∧ (written ++ rest).head? ≠ some '.' := by
  cases isExponent with
  | absent => exact ⟨ends.noDigit, fun isPoint => (ends '.' isPoint).2.1 rfl⟩
  | present isMark isSign areDigits =>
    rcases isMark with rfl | rfl <;>
      exact ⟨fun c isFirst => by cases isFirst; rfl, fun isPoint => by cases isPoint⟩

/-- A fraction does not go on with a digit. -/
theorem IsFraction.front (isFraction : IsFraction written) (noDigit : NoDigit rest) :
    NoDigit (written ++ rest) := by
  cases isFraction with
  | absent => exact noDigit
  | present areDigits => exact fun c isFirst => by cases isFirst; rfl

/-- A number without its sign is read. -/
theorem readUnsigned_append {whole fraction exponent : List Char} (isWhole : IsWhole whole)
    (isFraction : IsFraction fraction) (isExponent : IsExponent exponent) (ends : Ends rest) :
    readUnsigned (whole ++ (fraction ++ exponent) ++ rest) =
      some (whole ++ (fraction ++ exponent), rest) := by
  obtain ⟨noDigit, noPoint⟩ := isExponent.front ends
  simp only [readUnsigned, List.append_assoc, Option.bind_eq_bind, Option.bind_some,
    isWhole.readWhole (isFraction.front noDigit), isFraction.readFraction noDigit noPoint,
    isExponent.readExponent ends]
  rfl

/-- The part of a number in front of the point begins with a digit. -/
theorem IsWhole.front (isWhole : IsWhole written) :
    ∃ c others, written = c :: others ∧ c.isDigit = true := by
  cases isWhole with
  | zero => exact ⟨_, _, rfl, rfl⟩
  | digits areDigits =>
    obtain ⟨c, others, rfl⟩ := List.exists_cons_of_ne_nil areDigits.nonempty
    exact ⟨c, others, rfl, areDigits.all c List.mem_cons_self⟩

/-- A number begins with its sign or a digit. -/
theorem IsNumber.front (isNumber : IsNumber written) :
    ∃ c others, written = c :: others ∧ (c = '-' ∨ c.isDigit = true) := by
  obtain ⟨isSign, isWhole, isFraction, isExponent⟩ := isNumber
  rcases isSign with rfl | rfl
  · obtain ⟨c, others, rfl, isDigit⟩ := isWhole.front
    exact ⟨c, _, rfl, .inr isDigit⟩
  · exact ⟨'-', _, rfl, .inl rfl⟩

/-- A number is read. -/
theorem IsNumber.readNumber (isNumber : IsNumber written) (ends : Ends rest) :
    readNumber (written ++ rest) = some (written, rest) := by
  obtain @⟨sign, whole, fraction, exponent, isSign, isWhole, isFraction, isExponent⟩ := isNumber
  have reads := readUnsigned_append isWhole isFraction isExponent ends
  rcases isSign with rfl | rfl
  · obtain ⟨c, others, rfl, isDigit⟩ := isWhole.front
    rw [List.nil_append, ← reads]
    unfold Json.readNumber
    split
    · next same =>
      rw [(List.cons.inj same).1] at isDigit
      cases isDigit
    · rfl
  · change (readUnsigned (whole ++ (fraction ++ exponent) ++ rest)).bind _ = _
    rw [reads]
    rfl

/-- Only a number without its sign is read. -/
theorem isUnsigned_of_readUnsigned (reads : readUnsigned cs = some (written, rest)) :
    ∃ whole fraction exponent, cs = written ++ rest ∧ written = whole ++ (fraction ++ exponent) ∧
      IsWhole whole ∧ IsFraction fraction ∧ IsExponent exponent := by
  obtain ⟨⟨whole, afterWhole⟩, readsWhole, reads⟩ := Option.bind_eq_some_iff.1 reads
  obtain ⟨⟨fraction, afterFraction⟩, readsFraction, reads⟩ := Option.bind_eq_some_iff.1 reads
  obtain ⟨⟨exponent, afterExponent⟩, readsExponent, same⟩ := Option.bind_eq_some_iff.1 reads
  cases same
  obtain ⟨rfl, isWhole⟩ := isWhole_of_readWhole readsWhole
  obtain ⟨rfl, isFraction⟩ := isFraction_of_readFraction readsFraction
  obtain ⟨rfl, isExponent⟩ := isExponent_of_readExponent readsExponent
  exact ⟨whole, fraction, exponent, by simp, by simp, isWhole, isFraction, isExponent⟩

/-- Only a number is read. -/
theorem isNumber_of_readNumber (reads : readNumber cs = some (written, rest)) :
    cs = written ++ rest ∧ IsNumber written := by
  unfold readNumber at reads
  split at reads
  · obtain ⟨⟨digits, left⟩, readsDigits, same⟩ := Option.bind_eq_some_iff.1 reads
    cases same
    obtain ⟨whole, fraction, exponent, rfl, rfl, isWhole, isFraction, isExponent⟩ :=
      isUnsigned_of_readUnsigned readsDigits
    exact ⟨rfl, .intro (.inr rfl) isWhole isFraction isExponent⟩
  · obtain ⟨whole, fraction, exponent, rfl, rfl, isWhole, isFraction, isExponent⟩ :=
      isUnsigned_of_readUnsigned reads
    exact ⟨rfl, .intro (.inl rfl) isWhole isFraction isExponent⟩

end NodeScaler.Json
