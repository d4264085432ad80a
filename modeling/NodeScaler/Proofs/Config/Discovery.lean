import NodeScaler.Config.GroupSpec
import NodeScaler.Proofs.Text.Numeral

/-!
# Discovery strings

A discovery string announces a node group if it is parted by its first two colons into two sizes and a
name. What it announces, and which of its flaws is the first one, is said here without following the
checks. Reading accepts just the strings that announce something, and refuses all others for their
first flaw. Each node group is announced by the string that is written for it.
-/

namespace NodeScaler.GroupSpec

open Text (Digits Numeral Padded isBlank)

variable {cs before after : List Char} {written : String} {least greatest name : List Char}
  {value minimum maximum : Int} {scaleToZero : Bool} {spec : GroupSpec} {flaw : SpecFlaw}

/-! ## The form -/

/-- The parts of a text around its first two colons. -/
structure Parted (written : String) (least greatest name : List Char) : Prop where
  /-- There is a colon between them. -/
  whole : written.toList = least ++ ':' :: (greatest ++ ':' :: name)
  /-- There is none in the first part. -/
  first : ':' ∉ least
  /-- There is none in the second part. -/
  second : ':' ∉ greatest

/-- The least size that is allowed. -/
def leastAllowed (scaleToZero : Bool) : Nat := if scaleToZero then 0 else 1

/-- The integer has a width of 64 bits. -/
def Fits (value : Int) : Prop := -9223372036854775808 ≤ value ∧ value < 9223372036854775808

/-- The string has two integers and a name. -/
inductive Sized (written : String) (minimum maximum : Int) (name : List Char) : Prop where
  /-- The first two parts are integers between blanks. -/
  | intro {least greatest : List Char} (parted : Parted written least greatest name)
      (isMinimum : Padded least minimum) (isMaximum : Padded greatest maximum)

/-- What a string announces. -/
structure Announces (scaleToZero : Bool) (written : String) (spec : GroupSpec) : Prop where
  /-- It has the two sizes, and the name as it is. -/
  sized : Sized written spec.minSize spec.maxSize spec.name.toList
  /-- The minimum is allowed. -/
  allowed : leastAllowed scaleToZero ≤ spec.minSize
  /-- The maximum is not below it. -/
  ordered : spec.minSize ≤ spec.maxSize
  /-- Both have a width of 32 bits. -/
  short : spec.maxSize < 4294967296
  /-- The name does not hold blanks only. -/
  named : ∃ c ∈ spec.name.toList, isBlank c = false

/-- The first flaw of a string. -/
inductive Flawed (scaleToZero : Bool) (written : String) : SpecFlaw → Prop where
  /-- It has fewer than two colons. -/
  | shape (few : written.toList.count ':' < 2) : Flawed scaleToZero written .shape
  /-- The first part is no integer of 64 bits. -/
  | minNotInteger {least greatest name : List Char} (parted : Parted written least greatest name)
      (noMinimum : ∀ value, Padded least value → ¬Fits value) :
      Flawed scaleToZero written (.minNotInteger (String.ofList least))
  /-- The second part is none. -/
  | maxNotInteger {least greatest name : List Char} {minimum : Int}
      (parted : Parted written least greatest name) (isMinimum : Padded least minimum)
      (minimumFits : Fits minimum) (noMaximum : ∀ value, Padded greatest value → ¬Fits value) :
      Flawed scaleToZero written (.maxNotInteger (String.ofList greatest))
  /-- The minimum is not allowed. -/
  | minBelow {minimum maximum : Int} {name : List Char} (sized : Sized written minimum maximum name)
      (minimumFits : Fits minimum) (maximumFits : Fits maximum)
      (below : minimum < leastAllowed scaleToZero) :
      Flawed scaleToZero written (.minBelow (leastAllowed scaleToZero))
  /-- The maximum is below it. -/
  | maxBelowMin {minimum maximum : Int} {name : List Char}
      (sized : Sized written minimum maximum name) (minimumFits : Fits minimum)
      (maximumFits : Fits maximum) (allowed : leastAllowed scaleToZero ≤ minimum)
      (below : maximum < minimum) : Flawed scaleToZero written .maxBelowMin
  /-- The name holds blanks only. -/
  | blankName {minimum maximum : Int} {name : List Char} (sized : Sized written minimum maximum name)
      (maximumFits : Fits maximum) (allowed : leastAllowed scaleToZero ≤ minimum)
      (ordered : minimum ≤ maximum) (blank : ∀ c ∈ name, isBlank c = true) :
      Flawed scaleToZero written .blankName
  /-- The minimum is too large for 32 bits. -/
  | minOutOfRange {minimum maximum : Int} {name : List Char}
      (sized : Sized written minimum maximum name) (maximumFits : Fits maximum)
      (ordered : minimum ≤ maximum) (named : ∃ c ∈ name, isBlank c = false)
      (large : 4294967296 ≤ minimum) : Flawed scaleToZero written (.outOfRange minimum)
  /-- Only the maximum is too large. -/
  | maxOutOfRange {minimum maximum : Int} {name : List Char}
      (sized : Sized written minimum maximum name) (maximumFits : Fits maximum)
      (allowed : leastAllowed scaleToZero ≤ minimum) (named : ∃ c ∈ name, isBlank c = false)
      (short : minimum < 4294967296) (large : 4294967296 ≤ maximum) :
      Flawed scaleToZero written (.outOfRange maximum)

/-- The string that announces a node group. -/
def announcement (spec : GroupSpec) : String :=
  toString spec.minSize ++ ":" ++ toString spec.maxSize ++ ":" ++ spec.name

/-! ## Parts -/

/-- A text is cut at its first colon. -/
theorem cutAtColon?_eq_some_iff :
    cutAtColon? cs = some (before, after) ↔ cs = before ++ ':' :: after ∧ ':' ∉ before := by
  constructor
  · intro isCut
    have whole := List.takeWhile_append_dropWhile (p := fun c => decide (c ≠ ':')) (l := cs)
    unfold cutAtColon? at isCut
    split at isCut
    · cases isCut
    · next first rest isRest =>
      cases isCut
      have isColon := List.head_dropWhile_not (fun c => decide (c ≠ ':')) (l := cs)
        (by rw [isRest]; exact List.cons_ne_nil _ _)
      simp only [isRest, List.head_cons, decide_eq_false_iff_not, not_not] at isColon
      rw [isRest, isColon] at whole
      exact ⟨whole.symm, fun isIn => by simpa using List.mem_takeWhile_imp isIn⟩
  · rintro ⟨rfl, noColon⟩
    have apart : ∀ c ∈ before, decide (c ≠ ':') = true := fun c isIn =>
      decide_eq_true fun same => noColon (same ▸ isIn)
    unfold cutAtColon?
    rw [List.dropWhile_append_of_pos apart, List.takeWhile_append_of_pos apart]
    simp

/-- A text without colons is not cut. -/
theorem cutAtColon?_eq_none_iff : cutAtColon? cs = none ↔ ':' ∉ cs := by
  unfold cutAtColon?
  split
  · next none =>
    simp only [List.dropWhile_eq_nil_iff, decide_eq_true_eq] at none
    exact iff_of_true rfl fun isIn => none _ isIn rfl
  · next rest isRest =>
    refine iff_of_false (by simp) fun noColon => ?_
    have none : cs.dropWhile (fun c => decide (c ≠ ':')) = [] :=
      List.dropWhile_eq_nil_iff.2 fun c isIn => decide_eq_true fun same => noColon (same ▸ isIn)
    rw [none] at isRest
    cases isRest

/-- The fields of a string are its parts. -/
theorem fields?_eq_some_iff :
    fields? written.toList = some (least, greatest, name) ↔ Parted written least greatest name := by
  unfold fields?
  simp only [Option.bind_eq_bind, Option.bind_eq_some_iff, Prod.exists, cutAtColon?_eq_some_iff,
    Option.pure_def, Option.some.injEq, Prod.mk.injEq]
  constructor
  · rintro ⟨_, _, ⟨whole, first⟩, _, _, ⟨rfl, second⟩, rfl, rfl, rfl⟩
    exact ⟨whole, first, second⟩
  · rintro ⟨whole, first, second⟩
    exact ⟨_, _, ⟨whole, first⟩, _, _, ⟨rfl, second⟩, rfl, rfl, rfl⟩

/-- A string without fields has fewer than two colons. -/
theorem fields?_eq_none_iff : fields? written.toList = none ↔ written.toList.count ':' < 2 := by
  unfold fields?
  cases isCut : cutAtColon? written.toList with
  | none =>
    have noColon := List.count_eq_zero.2 (cutAtColon?_eq_none_iff.1 isCut)
    exact iff_of_true rfl (by omega)
  | some parts =>
    obtain ⟨before, after⟩ := parts
    obtain ⟨whole, noColon⟩ := cutAtColon?_eq_some_iff.1 isCut
    have counted : written.toList.count ':' = after.count ':' + 1 := by
      rw [whole, List.count_append, List.count_eq_zero.2 noColon, List.count_cons_self, Nat.zero_add]
    rw [counted]
    cases isCutAgain : cutAtColon? after with
    | none =>
      have noColonAfter := List.count_eq_zero.2 (cutAtColon?_eq_none_iff.1 isCutAgain)
      exact iff_of_true (by simp [isCutAgain]) (by omega)
    | some rest =>
      obtain ⟨wholeAfter, -⟩ := cutAtColon?_eq_some_iff.1 isCutAgain
      have another : 0 < after.count ':' := List.count_pos_iff.2 (by simp [wholeAfter])
      exact iff_of_false (by simp [isCutAgain]) (by omega)

/-- A size is read from an integer of 64 bits between blanks. -/
theorem readSigned?_eq_some_iff :
    Text.readSigned? 64 (Text.trimBlanks cs) = some value ↔ Padded cs value ∧ Fits value := by
  unfold Text.readSigned?
  rw [Option.filter_eq_some_iff, Text.readInteger?_trimBlanks_eq_some_iff]
  simp [Fits]

/-- Nothing is read from other texts. -/
theorem readSigned?_eq_none_iff :
    Text.readSigned? 64 (Text.trimBlanks cs) = none ↔ ∀ value, Padded cs value → ¬Fits value := by
  rw [Option.eq_none_iff_forall_ne_some]
  simp only [Ne, readSigned?_eq_some_iff, not_and]

/-! ## Checks -/

/-- What becomes of two sizes and a name. -/
def ofSizes (scaleToZero : Bool) (minimum maximum : Int) (name : List Char) :
    Except SpecFlaw GroupSpec := do
  if minimum < leastAllowed scaleToZero then throw (.minBelow (leastAllowed scaleToZero))
  if maximum < minimum then throw .maxBelowMin
  if name.all isBlank then throw .blankName
  return { name := String.ofList name, minSize := ← size minimum, maxSize := ← size maximum }

/-- The sizes and the name of a string are read and then checked. -/
theorem Sized.read (sized : Sized written minimum maximum name) (minimumFits : Fits minimum)
    (maximumFits : Fits maximum) :
    GroupSpec.read written scaleToZero = ofSizes scaleToZero minimum maximum name := by
  obtain ⟨parted, isMinimum, isMaximum⟩ := sized
  simp only [GroupSpec.read, fields?_eq_some_iff.2 parted,
    readSigned?_eq_some_iff.2 ⟨isMinimum, minimumFits⟩,
    readSigned?_eq_some_iff.2 ⟨isMaximum, maximumFits⟩]
  rfl

/-- A size of 32 bits is taken. -/
theorem size_of_short (nonnegative : 0 ≤ value) (short : value < 4294967296) :
    size value = .ok value.toNat := by
  have isLimit : Nat.pow 2 32 = 4294967296 := rfl
  refine if_pos ⟨nonnegative, ?_⟩
  omega

/-- A larger one is refused. -/
theorem size_of_large (large : 4294967296 ≤ value) : size value = .error (.outOfRange value) := by
  have isLimit : Nat.pow 2 32 = 4294967296 := rfl
  refine if_neg fun fits => ?_
  omega

/-- A name with a character that is not blank does not hold blanks only. -/
theorem all_isBlank_eq_false (named : ∃ c ∈ name, isBlank c = false) :
    name.all isBlank = false := by
  simpa using named

/-- Sizes in order and a name are left to be taken. -/
theorem ofSizes_of_ordered (allowed : leastAllowed scaleToZero ≤ minimum)
    (ordered : minimum ≤ maximum) (named : ∃ c ∈ name, isBlank c = false) :
    ofSizes scaleToZero minimum maximum name = (do
      return { name := String.ofList name, minSize := ← size minimum, maxSize := ← size maximum }) := by
  rw [ofSizes, if_neg (by omega), if_neg (by omega), all_isBlank_eq_false named]
  rfl

/-- At most one machine is needed at the least. -/
theorem leastAllowed_le_one (scaleToZero : Bool) : leastAllowed scaleToZero ≤ 1 := by
  cases scaleToZero <;> decide

/-- The first flaw is the reason for which a string is refused. -/
theorem Flawed.read (flawed : Flawed scaleToZero written flaw) :
    GroupSpec.read written scaleToZero = .error flaw := by
  cases flawed with
  | shape few =>
    simp only [GroupSpec.read, fields?_eq_none_iff.2 few]
    rfl
  | minNotInteger parted noMinimum =>
    simp only [GroupSpec.read, fields?_eq_some_iff.2 parted, readSigned?_eq_none_iff.2 noMinimum]
    rfl
  | maxNotInteger parted isMinimum minimumFits noMaximum =>
    simp only [GroupSpec.read, fields?_eq_some_iff.2 parted,
      readSigned?_eq_some_iff.2 ⟨isMinimum, minimumFits⟩, readSigned?_eq_none_iff.2 noMaximum]
    rfl
  | minBelow sized minimumFits maximumFits below =>
    rw [sized.read minimumFits maximumFits, ofSizes, if_pos below]
    rfl
  | maxBelowMin sized minimumFits maximumFits allowed below =>
    rw [sized.read minimumFits maximumFits, ofSizes, if_neg (by omega), if_pos below]
    rfl
  | @blankName minimum maximum name sized maximumFits allowed ordered blank =>
    have minimumFits : Fits minimum := by unfold Fits at *; omega
    rw [sized.read minimumFits maximumFits, ofSizes, if_neg (by omega), if_neg (by omega),
      if_pos (List.all_eq_true.2 blank)]
    rfl
  | @minOutOfRange minimum maximum name sized maximumFits ordered named large =>
    have least := leastAllowed_le_one scaleToZero
    have minimumFits : Fits minimum := by unfold Fits at *; omega
    rw [sized.read minimumFits maximumFits, ofSizes_of_ordered (by omega) ordered named,
      size_of_large large]
    rfl
  | @maxOutOfRange minimum maximum name sized maximumFits allowed named short large =>
    have minimumFits : Fits minimum := ⟨by omega, by omega⟩
    rw [sized.read minimumFits maximumFits, ofSizes_of_ordered allowed (by omega) named,
      size_of_short (by omega) short, size_of_large large]
    rfl

/-- What is announced is read. -/
theorem Announces.read (announces : Announces scaleToZero written spec) :
    GroupSpec.read written scaleToZero = .ok spec := by
  obtain ⟨sized, allowed, ordered, short, named⟩ := announces
  have minimumFits : Fits spec.minSize := ⟨by omega, by omega⟩
  have maximumFits : Fits spec.maxSize := ⟨by omega, by omega⟩
  rw [sized.read minimumFits maximumFits, ofSizes_of_ordered (by omega) (by omega) named,
    size_of_short (by omega) (by omega), size_of_short (by omega) (by omega), String.ofList_toList]
  rfl

/-- A string is flawed, or it announces a node group. -/
theorem flawed_or_announces (scaleToZero : Bool) (written : String) :
    (∃ flaw, Flawed scaleToZero written flaw) ∨ ∃ spec, Announces scaleToZero written spec := by
  cases areFields : fields? written.toList with
  | none => exact .inl ⟨_, .shape (fields?_eq_none_iff.1 areFields)⟩
  | some parts =>
    obtain ⟨least, greatest, name⟩ := parts
    have parted := fields?_eq_some_iff.1 areFields
    cases isRead : Text.readSigned? 64 (Text.trimBlanks least) with
    | none => exact .inl ⟨_, .minNotInteger parted (readSigned?_eq_none_iff.1 isRead)⟩
    | some minimum =>
      obtain ⟨isMinimum, minimumFits⟩ := readSigned?_eq_some_iff.1 isRead
      cases isReadToo : Text.readSigned? 64 (Text.trimBlanks greatest) with
      | none =>
        exact .inl ⟨_, .maxNotInteger parted isMinimum minimumFits
          (readSigned?_eq_none_iff.1 isReadToo)⟩
      | some maximum =>
        obtain ⟨isMaximum, maximumFits⟩ := readSigned?_eq_some_iff.1 isReadToo
        have sized : Sized written minimum maximum name := ⟨parted, isMinimum, isMaximum⟩
        by_cases below : minimum < leastAllowed scaleToZero
        · exact .inl ⟨_, .minBelow sized minimumFits maximumFits below⟩
        have allowed : leastAllowed scaleToZero ≤ minimum := by omega
        by_cases disordered : maximum < minimum
        · exact .inl ⟨_, .maxBelowMin sized minimumFits maximumFits allowed disordered⟩
        have ordered : minimum ≤ maximum := by omega
        by_cases blank : ∀ c ∈ name, isBlank c = true
        · exact .inl ⟨_, .blankName sized maximumFits allowed ordered blank⟩
        have named : ∃ c ∈ name, isBlank c = false := by simpa using blank
        by_cases large : 4294967296 ≤ minimum
        · exact .inl ⟨_, .minOutOfRange sized maximumFits ordered named large⟩
        by_cases largeToo : 4294967296 ≤ maximum
        · exact .inl ⟨_, .maxOutOfRange sized maximumFits allowed named (by omega) largeToo⟩
        · have isMin : (minimum.toNat : Int) = minimum := Int.toNat_of_nonneg (by omega)
          have isMax : (maximum.toNat : Int) = maximum := Int.toNat_of_nonneg (by omega)
          refine .inr ⟨⟨String.ofList name, minimum.toNat, maximum.toNat⟩, ?_, ?_, ?_, ?_, ?_⟩
          · rw [isMin, isMax, String.toList_ofList]
            exact sized
          · dsimp only
            omega
          · dsimp only
            omega
          · dsimp only
            omega
          · rwa [String.toList_ofList]

/-- A node group is announced by the string that is written for it. -/
theorem announces_announcement (ordered : spec.minSize ≤ spec.maxSize)
    (short : spec.maxSize < 4294967296) (named : ∃ c ∈ spec.name.toList, isBlank c = false)
    (allowed : leastAllowed scaleToZero ≤ spec.minSize) :
    Announces scaleToZero spec.announcement spec := by
  have padded (number : Nat) : Padded (toString number).toList number := by
    have alone : Padded ([] ++ (toString number).toList ++ []) number :=
      .intro (List.forall_mem_nil _) (.plain (Text.digits_toString number)) (List.forall_mem_nil _)
    rwa [List.append_nil] at alone
  have noColon (number : Nat) : ':' ∉ (toString number).toList := fun isIn =>
    absurd ((Text.digits_toString number).areDigits ':' isIn) (by decide)
  refine ⟨⟨⟨?_, noColon spec.minSize, noColon spec.maxSize⟩, padded _, padded _⟩, allowed, ordered,
    short, named⟩
  simp only [announcement, String.toList_append, List.append_assoc]
  rfl

/-- **Reading accepts just what is announced.** A string is read as a node group just if it announces
it. Any other string is refused, together with its first flaw. The string that is written for a node
group with its bounds in order and a name is read back as this node group. -/
theorem parse_exact (written : String) (scaleToZero : Bool) :
    (∀ spec, parse written scaleToZero = .ok spec ↔ Announces scaleToZero written spec) ∧
      (∀ error, parse written scaleToZero = .error error ↔
        ∃ flaw, Flawed scaleToZero written flaw ∧ error = .invalidSpec written flaw.message) ∧
      ∀ spec : GroupSpec, spec.minSize ≤ spec.maxSize → spec.maxSize < 4294967296 →
        (∃ c ∈ spec.name.toList, isBlank c = false) → leastAllowed scaleToZero ≤ spec.minSize →
        parse spec.announcement scaleToZero = .ok spec := by
  have accepted {written : String} {spec : GroupSpec}
      (announces : Announces scaleToZero written spec) : parse written scaleToZero = .ok spec := by
    rw [parse, announces.read]
    rfl
  have refused {flaw : SpecFlaw} (flawed : Flawed scaleToZero written flaw) :
      parse written scaleToZero = .error (.invalidSpec written flaw.message) := by
    rw [parse, flawed.read]
    rfl
  refine ⟨fun spec => ⟨fun isOk => ?_, accepted⟩, fun error => ⟨fun isError => ?_, ?_⟩, ?_⟩
  · rcases flawed_or_announces scaleToZero written with ⟨flaw, flawed⟩ | ⟨other, announces⟩
    · cases (refused flawed).symm.trans isOk
    · cases (accepted announces).symm.trans isOk
      exact announces
  · rcases flawed_or_announces scaleToZero written with ⟨flaw, flawed⟩ | ⟨other, announces⟩
    · cases (refused flawed).symm.trans isError
      exact ⟨flaw, flawed, rfl⟩
    · cases (accepted announces).symm.trans isError
  · rintro ⟨flaw, flawed, rfl⟩
    exact refused flawed
  · intro spec ordered short named allowed
    exact accepted (announces_announcement ordered short named allowed)

/-- A node group whose name has a colon inside and a blank at its end is read back from the string that
is written for it. -/
theorem coloned_exact :
    let spec : GroupSpec := ⟨"pool:a ", 12, 34⟩
    (spec.minSize ≤ spec.maxSize ∧ spec.maxSize < 4294967296 ∧
        (∃ c ∈ spec.name.toList, isBlank c = false) ∧ leastAllowed false ≤ spec.minSize) ∧
      spec.announcement = "12:34:pool:a " ∧ parse "12:34:pool:a " false = .ok spec := by
  intro spec
  have ordered : spec.minSize ≤ spec.maxSize := by
    decide
  have short : spec.maxSize < 4294967296 := by
    decide
  have named : ∃ c ∈ spec.name.toList, isBlank c = false := ⟨'p', by decide, by decide⟩
  have allowed : leastAllowed false ≤ spec.minSize := by
    decide
  have isWritten : spec.announcement = "12:34:pool:a " := by
    decide +kernel
  have isRead := (parse_exact "12:34:pool:a " false).2.2 spec ordered short named allowed
  rw [isWritten] at isRead
  exact ⟨⟨ordered, short, named, allowed⟩, isWritten, isRead⟩

/-- Signs, zeros in front and blanks around the sizes do not matter. -/
example : parse " +0012 :\t34:pool:a " false = .ok ⟨"pool:a ", 12, 34⟩ := by decide +kernel

/-- The minimum is looked at before the name. -/
example : parse "0:34: " false = .error (.invalidSpec "0:34: " "min size must be >= 1") := by
  decide +kernel

end NodeScaler.GroupSpec
