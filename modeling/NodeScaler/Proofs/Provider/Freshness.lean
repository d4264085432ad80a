import NodeScaler.Proofs.Provider.Itemizing
import NodeScaler.Proofs.Text.Numeral

/-!
# Names that no member bears

The names of a group's machines begin alike, and a number follows. The next number is the least one
above the number of members and above every number that a member bears, however the number is written.
So no member bears its name, nor any name with a later number, and none is asked for before the
numbers have been counted past the greatest one.

A number has 64 bits. What follows the beginning of a name and stands for a larger number is no number
of the scheme, and such a name only counts as one more member.
-/

namespace NodeScaler.Cloning

variable {start name : String} {names others : List String} {number : Nat}

/-! ## The scheme -/

/-- The name consists of the beginning and a number of 64 bits, with a plus sign or without a sign.
Zeros in front of the number do not matter. -/
inductive Bears (start name : String) (number : Nat) : Prop where
  /-- The number follows at once. -/
  | plain {digits : List Char} (isNumber : Text.Digits digits number) (fits : number < Nat.pow 2 64)
      (whole : name.toList = start.toList ++ digits)
  /-- The number follows a plus sign. -/
  | plus {digits : List Char} (isNumber : Text.Digits digits number) (fits : number < Nat.pow 2 64)
      (whole : name.toList = start.toList ++ '+' :: digits)

/-- The name belongs to the scheme. -/
def inScheme (start name : String) : Bool := (numberAfter? start name).isSome

/-- A number has 64 bits. -/
theorem Bears.fits (bears : Bears start name number) : number < Nat.pow 2 64 := by
  cases bears with
  | plain _ fits _ | plus _ fits _ => exact fits

/-- The number that a name bears is read off it, and no other one is. -/
theorem numberAfter?_eq_some_iff : numberAfter? start name = some number ↔ Bears start name number := by
  unfold numberAfter?
  rw [Option.bind_eq_some_iff]
  constructor
  · rintro ⟨rest, isRest, isRead⟩
    have whole := List.isPrefixOf?_eq_some_iff_append_eq.1 isRest
    obtain ⟨isNumber | ⟨digits, rfl, isNumber⟩, fits⟩ := Text.readUnsigned?_eq_some_iff.1 isRead
    · exact .plain isNumber fits whole.symm
    · exact .plus isNumber fits whole.symm
  · intro bears
    cases bears with
    | plain isNumber fits whole =>
      refine ⟨_, List.isPrefixOf?_eq_some_iff_append_eq.2 whole.symm, ?_⟩
      exact Text.readUnsigned?_eq_some_iff.2 ⟨.inl isNumber, fits⟩
    | plus isNumber fits whole =>
      refine ⟨_, List.isPrefixOf?_eq_some_iff_append_eq.2 whole.symm, ?_⟩
      exact Text.readUnsigned?_eq_some_iff.2 ⟨.inr ⟨_, rfl, isNumber⟩, fits⟩

/-- The name that is made with a number bears this number. -/
theorem bears_toString (start : String) (fits : number < Nat.pow 2 64) :
    Bears start (start ++ toString number) number := by
  apply Bears.plain (Text.digits_toString number) fits
  exact String.toList_append

/-! ## The next number -/

/-- A number is the next one for some names: the least one above how many they are and above all
numbers that they bear. -/
structure Next (start : String) (names : List String) (next : Nat) : Prop where
  /-- It is above the number of names. -/
  above : names.length < next
  /-- It is above every number that a name bears. -/
  unborne : ∀ name ∈ names, ∀ number, Bears start name number → number < next
  /-- Every number above all these is as great. -/
  least : ∀ other, names.length < other →
    (∀ name ∈ names, ∀ number, Bears start name number → number < other) → next ≤ other
  /-- Of the names with a number of 64 bits from it on, none is there. -/
  fresh : ∀ number : UInt64, next ≤ number.toNat → start ++ toString number.toNat ∉ names

/-- The number above the last one is such a number. -/
theorem lastNumber_next (start : String) (names : List String) :
    Next start names (lastNumber start names + 1) := by
  obtain ⟨above, unborne⟩ := lastNumber_lt_iff.1 (Nat.lt_succ_self (lastNumber start names))
  simp only [numberAfter?_eq_some_iff] at unborne
  constructor
  case above => exact above
  case unborne => exact unborne
  case least =>
    intro other aboveToo unborneToo
    simp only [← numberAfter?_eq_some_iff] at unborneToo
    exact lastNumber_lt_iff.2 ⟨aboveToo, unborneToo⟩
  case fresh =>
    intro number late isIn
    have early := unborne _ isIn _ (bears_toString start number.toNat_lt)
    omega

/-- The last number can be counted on, unless a name bears the greatest number of 64 bits or there are
too many names. -/
theorem lastNumber_fits (spare : ∀ name ∈ names, ¬Bears start name (Nat.pow 2 64 - 1))
    (few : names.length + 1 < Nat.pow 2 64) : lastNumber start names + 1 < Nat.pow 2 64 := by
  have small : lastNumber start names < Nat.pow 2 64 - 1 := by
    apply lastNumber_lt_iff.2
    constructor
    · omega
    · intro name isIn number isRead
      have bears := numberAfter?_eq_some_iff.1 isRead
      have notGreatest : number ≠ Nat.pow 2 64 - 1 := by
        rintro rfl
        exact spare name isIn bears
      have fits := bears.fits
      omega
  omega

/-- Only the names of the scheme matter for the next number, in any order, and how many names there
are. -/
theorem nextNumber_of_scheme
    (scheme : (names.filter (inScheme start)).Perm (others.filter (inScheme start)))
    (length : names.length = others.length) : nextNumber start names = nextNumber start others := by
  have numbers (names : List String) : (names.filter (inScheme start)).filterMap (numberAfter? start) =
      names.filterMap (numberAfter? start) := by
    rw [List.filterMap_filter]
    apply List.filterMap_congr
    intro name _
    cases isNumber : numberAfter? start name <;> simp [inScheme, isNumber]
  have borne := scheme.filterMap (numberAfter? start)
  rw [numbers, numbers] at borne
  exact congrArg following (by rw [lastNumber, lastNumber, borne.foldl_eq, length])

/-! ## A call for machines -/

/-- What only reads asks for no machine. -/
theorem clones_of_reads {exchanges : List (Exchange Told.interface)}
    (reads : ∀ look ∈ exchanges, look.question.Reads) : clones exchanges = [] := by
  apply List.filterMap_eq_nil_iff.2
  intro look isIn
  have isRead := reads look isIn
  cases question : look.question with
  | clone request =>
    rw [question] at isRead
    exact isRead.elim
  | resolve | attach | name | uuid => rfl

/-- When the names of the members are read, the machines asked for bear numbers that are counted on from
the next one. There are no more of them than called for and passed over. -/
theorem clones_create {σ : Type} {handler : Handler Told.interface σ} {cloning : Cloning}
    {group : String} {state : σ}
    (read : ((cloning.names Told.client group).run.transcript handler state).value =
      some (.ok names)) (count : Nat) :
    ∃ trials ≤ count + mostCollisions,
      clones ((cloning.create Told.client group count).run.transcript handler state).exchanges =
        (numbersFrom (nextNumber (stem cloning.cluster group) names) trials).map
          (cloning.numbered group) := by
  obtain ⟨reads, -⟩ := (names_harmless told_lookups cloning group).transcript handler state
  obtain ⟨trials, told, last, whole, tells, enough, numbers⟩ :=
    create_transcript_named handler cloning group count read
  have lookups := clones_of_reads reads
  have trialled := tells.clones_eq
  refine ⟨trials.length, length_le_of_counted enough, ?_⟩
  rw [whole]
  unfold clones at lookups trialled ⊢
  rw [List.filterMap_append, lookups, List.nil_append, trialled, numbers]

/-- The machine of a number of 64 bits that is not below the next number is no member. -/
theorem numbered_fresh {cloning : Cloning} {group : String} {next : Nat}
    (isNext : Next (stem cloning.cluster group) names next) (fits : number < Nat.pow 2 64)
    (late : next ≤ number) : (cloning.numbered group number).name ∉ names := by
  intro isIn
  have early := isNext.unborne _ isIn _ (bears_toString (stem cloning.cluster group) fits)
  exact absurd early (Nat.not_lt.2 late)

/-- **Fresh names.** If no name bears the greatest number of 64 bits, then the next number of the names
is above how many names there are and above all numbers that they bear, and of the names with this
number or a later one none is there. It depends neither on the order of the names nor on those outside
the scheme, but for their number. Whatever a client does, a call for machines asks for numbers of 64
bits only, and for none that a member bears unless it has counted past the greatest one; it does not
if as many numbers are left as machines are called for and names may be passed over.

The number of names is itself one of 64 bits and not the greatest: no list in memory is longer. -/
theorem next_fresh (start : String) (names : List String)
    (spare : ∀ name ∈ names, ¬Bears start name (Nat.pow 2 64 - 1)) :
    (names.length + 1 < Nat.pow 2 64 → Next start names (nextNumber start names)) ∧
    nextNumber start names < Nat.pow 2 64 ∧
    (∀ others : List String, others.length = names.length →
      (others.filter (inScheme start)).Perm (names.filter (inScheme start)) →
        nextNumber start others = nextNumber start names) ∧
    ∀ (σ : Type) (handler : Handler Told.interface σ) (cloning : Cloning) (group : String)
      (count : Nat) (state : σ), stem cloning.cluster group = start →
      names.length + 1 < Nat.pow 2 64 →
      ((cloning.names Told.client group).run.transcript handler state).value = some (.ok names) →
      ∀ request ∈ clones ((cloning.create Told.client group count).run.transcript handler
        state).exchanges, ∃ number < Nat.pow 2 64, request = cloning.numbered group number ∧
          (nextNumber start names ≤ number → request.name ∉ names) ∧
          (nextNumber start names + count + mostCollisions ≤ Nat.pow 2 64 →
            nextNumber start names ≤ number) := by
  have next (few : names.length + 1 < Nat.pow 2 64) :
      Next start names (nextNumber start names) :=
    nextNumber_eq (lastNumber_fits spare few) ▸ lastNumber_next start names
  refine ⟨next, nextNumber_lt start names, ?_, ?_⟩
  · intro others length scheme
    exact nextNumber_of_scheme scheme length
  · intro σ handler cloning group count state isStart few read request isAsked
    obtain ⟨trials, short, asked⟩ := clones_create read count
    rw [asked, isStart] at isAsked
    obtain ⟨number, isNumber, rfl⟩ := List.mem_map.1 isAsked
    have fits := lt_of_mem_numbersFrom (nextNumber_lt start names) isNumber
    refine ⟨number, fits, rfl, numbered_fresh (isStart ▸ next few) fits, ?_⟩
    intro room
    rw [numbersFrom_eq_range' (by omega)] at isNumber
    exact (List.mem_range'_1.1 isNumber).1

/-- The names of a crew: two of them bear a small number, one a number that is too large, and one none
at all. -/
def crewNames : List String := ["c-g-007", "c-g-18446744073709551616", "c-g-+3", "manual"]

/-- A client for whom the crew are the machines with every tag, and all goes well. -/
def crew : Handler Told.interface Unit
  | .resolve _, _ =>
    (⟨.zero, .ok (.ofList [.vm "vm-1", .vm "vm-2", .vm "vm-3", .vm "vm-4"])⟩, ())
  | .attach _ _, _ => (⟨.zero, .ok ()⟩, ())
  | .name object, _ =>
    (⟨.zero, .ok ((crewNames.zip ["vm-1", "vm-2", "vm-3", "vm-4"]).find?
      (·.2 = object.id) |>.elim "" (·.1))⟩, ())
  | .uuid object, _ => (⟨.zero, .ok object.id⟩, ())
  | .clone request, _ => (⟨.zero, .ok (.vm request.name)⟩, ())

/-- How the machines of the crew are made. -/
def crewCloning : Cloning := ⟨"c", "tmpl", "", "", .seconds 600⟩

/-- The next machines of the crew are asked for under names that none of them bears, and it would be
the same ones if the crew were listed in another order. -/
theorem crew_fresh : (∀ name ∈ crewNames, ¬Bears "c-g-" name (Nat.pow 2 64 - 1)) ∧
    nextNumber "c-g-" crewNames = 8 ∧ Next "c-g-" crewNames 8 ∧
    nextNumber "c-g-" ["foreign", "c-g-+3", "c-g-seven", "c-g-007"] = 8 ∧
    let calls := clones ((crewCloning.create Told.client "g" 2).run.transcript crew ()).exchanges
    calls = [crewCloning.numbered "g" 8, crewCloning.numbered "g" 9] ∧
      ∀ request ∈ calls, ∃ number < Nat.pow 2 64, request = crewCloning.numbered "g" number ∧
        (8 ≤ number → request.name ∉ crewNames) ∧
        (8 + 2 + mostCollisions ≤ Nat.pow 2 64 → 8 ≤ number) := by
  have spare : ∀ name ∈ crewNames, ¬Bears "c-g-" name (Nat.pow 2 64 - 1) := by
    intro name isIn bears
    have none : ∀ name ∈ crewNames, numberAfter? "c-g-" name ≠ some (Nat.pow 2 64 - 1) := by
      decide +kernel
    exact none name isIn (numberAfter?_eq_some_iff.2 bears)
  obtain ⟨next, -, listed, asked⟩ := next_fresh "c-g-" crewNames spare
  have few : crewNames.length + 1 < Nat.pow 2 64 := by decide
  have isNext : nextNumber "c-g-" crewNames = 8 := by decide +kernel
  have named : ((crewCloning.names Told.client "g").run.transcript crew ()).value =
      some (.ok crewNames) := by decide +kernel
  have fresh := asked Unit crew crewCloning "g" 2 () (by decide +kernel) few named
  rw [isNext] at next listed fresh
  refine ⟨spare, isNext, next few, ?_, by decide +kernel, fresh⟩
  apply listed
  · decide
  · decide +kernel

end NodeScaler.Cloning
