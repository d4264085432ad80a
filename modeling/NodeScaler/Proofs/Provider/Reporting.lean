import Mathlib.Data.List.Perm.Basic
import NodeScaler.Proofs.Provider.Trials

/-!
# What is reported of machines

A machine that has been cloned but misses a tag does not belong to its group, so the call that has
made it should report it as a failure. It does so with one exception: if a tag cannot be attached
because something exists already, the name is taken for one that is in use, and is passed over. The
machine is then neither counted nor reported, and another one is made in its place. This happens
as long as names may be passed over, and never else.
-/

namespace NodeScaler.Cloning

variable {cloning : Cloning} {group : String} {count : Nat}

/-! ## Names of machines -/

/-- The report about a machine that could not be made. -/
def line (cloning : Cloning) (group : String) (number : Nat) (error : InventoryError) : String :=
  machineName cloning.cluster group number ++ ": " ++ error.message

/-- A number that is followed by something else than a digit can be read off. -/
theorem digits_append_inj {first second : Nat} (separator : Char) {rest other : List Char}
    (noDigit : separator.isDigit = false)
    (same : Nat.toDigits 10 first ++ separator :: rest =
      Nat.toDigits 10 second ++ separator :: other) : first = second := by
  have read (number : Nat) (others : List Char) :
      (Nat.toDigits 10 number ++ separator :: others).takeWhile Char.isDigit =
        Nat.toDigits 10 number := by
    rw [List.takeWhile_append_of_pos fun digit isIn =>
      Nat.isDigit_of_mem_toDigits (by decide) (by decide) isIn]
    simp [noDigit]
  have digits := congrArg (List.takeWhile Char.isDigit) same
  rw [read, read] at digits
  have numbers := congrArg (Nat.ofDigitChars 10 · 0) digits
  simpa [Nat.ofDigitChars_ten_toDigits] using numbers

/-- Reports about machines of different numbers are different. -/
theorem line_inj {first second : Nat} {error other : InventoryError}
    (same : line cloning group first error = line cloning group second other) : first = second := by
  have characters := congrArg String.toList same
  simp only [line, machineName, Nat.toString_eq_ofList_toDigits, String.toList_append,
    String.toList_ofList, List.append_assoc, List.append_cancel_left_eq] at characters
  exact digits_append_inj ':' (by decide) characters

/-! ## Trials that count and others -/

/-- The trials that are passed over: the first ones that end with the failure that something
exists already. -/
def passedOver (collisions : Nat) (trials : List Trial) : List Trial :=
  (trials.filter (·.fate.isTaken)).take collisions

/-- Every trial counts or is passed over. -/
theorem counted_perm (collisions : Nat) (trials : List Trial) :
    (counted collisions trials ++ passedOver collisions trials).Perm trials := by
  induction trials generalizing collisions with
  | nil => simp [passedOver]
  | cons trial later inductionHypothesis =>
    cases collisions with
    | zero => simp [counted, passedOver]
    | succ collisions =>
      rw [counted]
      by_cases taken : trial.fate.isTaken = true
      · rw [if_pos taken, passedOver, List.filter_cons, if_pos taken, List.take_succ_cons]
        exact List.perm_middle.trans ((inductionHypothesis collisions).cons trial)
      · rw [if_neg taken, passedOver, List.filter_cons, if_neg taken]
        exact (inductionHypothesis (collisions + 1)).cons trial

/-- What is passed over has ended with the failure that something exists already. -/
theorem passedOver_taken {collisions : Nat} {trials : List Trial} {trial : Trial}
    (isIn : trial ∈ passedOver collisions trials) : trial.fate.isTaken = true :=
  (List.mem_filter.1 (List.mem_of_mem_take isIn)).2

/-- If nothing of a kind is passed over, all of this kind counts. -/
theorem countP_counted {collisions : Nat} {trials : List Trial} {kind : Trial → Bool}
    (none : ∀ trial ∈ passedOver collisions trials, ¬kind trial = true) :
    (counted collisions trials).countP kind = trials.countP kind := by
  have all := (counted_perm collisions trials).countP_eq kind
  rw [List.countP_append, List.countP_eq_zero.2 none] at all
  exact all

/-- There are no more trials than count and may be passed over. -/
theorem length_le_of_counted {collisions : Nat} {trials : List Trial}
    (enough : (counted collisions trials).length = count) : trials.length ≤ count + collisions := by
  have all := (counted_perm collisions trials).length_eq
  have most : (passedOver collisions trials).length ≤ collisions := List.length_take_le _ _
  rw [List.length_append] at all
  omega

/-- What counts is not passed over under the same number. -/
theorem counted_ne_passedOver {collisions : Nat} {trials : List Trial} {trial other : Trial}
    (distinct : (trials.map (·.number)).Nodup) (counts : trial ∈ counted collisions trials)
    (isPassed : other ∈ passedOver collisions trials) : trial.number ≠ other.number := by
  have apart := ((counted_perm collisions trials).map (·.number)).nodup_iff.2 distinct
  rw [List.map_append, List.nodup_append] at apart
  exact apart.2.2 _ (List.mem_map_of_mem counts) _ (List.mem_map_of_mem isPassed)

/-! ## The account -/

/-- The account of trials counts the machines with both tags. -/
theorem tally_created (cloning : Cloning) (group : String) (trials : List Trial) :
    (tally cloning group trials).created = trials.countP (·.fate.isTagged) := by
  induction trials with
  | nil => rfl
  | cons trial later inductionHypothesis =>
    obtain ⟨number, fate⟩ := trial
    cases fate <;> simp [tally, Account.add, Fate.result, Fate.isTagged, inductionHypothesis]

/-- The account of trials lists those that have failed. -/
theorem mem_tally_failures (cloning : Cloning) (group : String) (trials : List Trial)
    (text : String) :
    text ∈ (tally cloning group trials).failures ↔ ∃ trial ∈ trials, ∃ error,
      trial.fate.result = .error error ∧ text = line cloning group trial.number error := by
  induction trials with
  | nil => simp [tally]
  | cons trial later inductionHypothesis =>
    obtain ⟨number, fate⟩ := trial
    cases fate <;>
      simp [tally, Account.add, Fate.result, line, inductionHypothesis]

/-- In the account each trial is a machine or a failure. -/
theorem tally_sum (cloning : Cloning) (group : String) (trials : List Trial) :
    (tally cloning group trials).created + (tally cloning group trials).failures.length =
      trials.length := by
  induction trials with
  | nil => rfl
  | cons trial later inductionHypothesis =>
    rw [tally, List.length_cons, ← inductionHypothesis]
    exact (add_gain cloning group ⟨trial.number, trial.fate.result, 0⟩ _).2

/-! ## A call for machines -/

/-- The lookups of a client that does as it is told only read. -/
theorem told_lookups : Lookups Told.client Told.Question.Reads where
  resolve _ := ⟨trivial, fun outcome => Told.harmless_finish outcome⟩
  name _ := ⟨trivial, fun outcome => Told.harmless_finish outcome⟩
  uuid _ := ⟨trivial, fun outcome => Told.harmless_finish outcome⟩

/-- The exchanges are lookups and then the trials, whose numbers are counted on from a number of
64 bits. -/
def Tried (cloning : Cloning) (group : String) (trials : List Trial)
    (exchanges : List (Exchange Told.interface)) : Prop :=
  ∃ looks told first, exchanges = looks ++ told ∧
    (∀ look ∈ looks, look.question.Reads) ∧ Tell cloning group trials told ∧
    first < Nat.pow 2 64 ∧ trials.map (·.number) = numbersFrom first trials.length

/-- A call for machines: it either fails before the first trial, or its result is the account of
the trials that count, and these are as many as machines were asked for. -/
theorem create_transcript {σ : Type} (handler : Handler Told.interface σ) (cloning : Cloning)
    (group : String) (count : Nat) (state : σ) :
    let ending := (cloning.create Told.client group count).run.transcript handler state
    ∃ trials result, Tried cloning group trials ending.exchanges ∧ ending.value = some result ∧
      ((trials = [] ∧ ∃ error, result = .error error ∧ Idle error) ∨
        (result = (tally cloning group (counted mostCollisions trials)).result count ∧
          (counted mostCollisions trials).length = count)) := by
  intro ending
  obtain ⟨reads, result, value, idle⟩ :=
    (names_harmless told_lookups cloning group).transcript handler state
  cases result with
  | error error =>
    have whole : ending = _ := create_unnamed (Transcript.whole value) count
    rw [whole]
    refine ⟨[], .error error, ⟨_, [], 0, (List.append_nil _).symm, reads, .nil, by decide, rfl⟩, rfl,
      .inl ?_⟩
    exact ⟨rfl, error, rfl, idle⟩
  | ok existing =>
    obtain ⟨trials, told, last, whole, tells, length, numbers⟩ :=
      create_transcript_named handler cloning group count value
    rw [show ending = _ from whole]
    exact ⟨trials, _, ⟨_, _, _, rfl, reads, tells, nextNumber_lt _ _, numbers⟩, rfl,
      .inr ⟨rfl, length⟩⟩

/-- The result of a call for machines says what has become of the trials. -/
structure Reported (cloning : Cloning) (group : String) (count : Nat) (trials : List Trial)
    (result : Except ProviderError Unit) : Prop where
  /-- The machines with both tags are counted. -/
  created : made count result = trials.countP (·.fate.isTagged)
  /-- Every machine that misses a tag is a failure. -/
  stranded : ∀ trial ∈ trials, ∀ object error, trial.fate = .stranded object error →
    line cloning group trial.number error ∈ reported result
  /-- There are at most as many machines as were asked for. -/
  few : trials.countP (·.fate.isCloned) ≤ count
  /-- If all is well then no machine misses a tag. -/
  clean : result = .ok () → ∀ trial ∈ trials, trial.fate.isStranded = false

/-- A machine that misses a tag has been passed over: it is among the first trials that end with
the failure that something exists already. -/
def Overlooked (trials : List Trial) : Prop :=
  ∃ trial ∈ passedOver mostCollisions trials, trial.fate.isStranded = true

/-- If no machine is passed over, the account says what has become of the trials. -/
theorem reported_of_counted {trials : List Trial}
    (length : (counted mostCollisions trials).length = count) (noticed : ¬Overlooked trials) :
    Reported cloning group count trials
      ((tally cloning group (counted mostCollisions trials)).result count) := by
  have sum := tally_sum cloning group (counted mostCollisions trials)
  rw [length] at sum
  have refused : ∀ trial ∈ passedOver mostCollisions trials, ¬trial.fate.isCloned = true := by
    intro trial isPassed isCloned
    have taken := passedOver_taken isPassed
    obtain ⟨number, fate⟩ := trial
    cases fate with
    | refused error => cases isCloned
    | stranded object error => exact noticed ⟨_, isPassed, rfl⟩
    | tagged object => cases taken
  have untagged : ∀ trial ∈ passedOver mostCollisions trials, ¬trial.fate.isTagged = true := by
    intro trial isPassed isTagged
    have taken := passedOver_taken isPassed
    obtain ⟨number, fate⟩ := trial
    cases fate with
    | refused | stranded => cases isTagged
    | tagged object => cases taken
  have stranded : ∀ trial ∈ trials, ∀ object error, trial.fate = .stranded object error →
      line cloning group trial.number error ∈
        reported ((tally cloning group (counted mostCollisions trials)).result count) := by
    intro trial isTrial object error isStranded
    rw [reported_result, mem_tally_failures]
    have either := (counted_perm mostCollisions trials).mem_iff.2 isTrial
    rcases List.mem_append.1 either with counts | isPassed
    · exact ⟨trial, counts, error, by rw [isStranded]; rfl, rfl⟩
    · exact absurd ⟨trial, isPassed, by rw [isStranded]; rfl⟩ noticed
  constructor
  · rw [made_result sum, tally_created]
    exact countP_counted untagged
  · exact stranded
  · rw [← countP_counted refused, ← length]
    exact List.countP_le_length
  · intro isOk trial isTrial
    obtain ⟨number, fate⟩ := trial
    cases fate with
    | refused | tagged => rfl
    | stranded object error =>
      have isReported := stranded _ isTrial object error rfl
      rw [isOk] at isReported
      exact absurd isReported List.not_mem_nil

/-- A machine that is passed over is not reported. -/
theorem not_reported_of_overlooked {trials : List Trial}
    (distinct : (trials.map (·.number)).Nodup) (overlooked : Overlooked trials) :
    ¬Reported cloning group count trials
      ((tally cloning group (counted mostCollisions trials)).result count) := by
  intro isReported
  obtain ⟨trial, isPassed, isStranded⟩ := overlooked
  have isTrial : trial ∈ trials :=
    (counted_perm mostCollisions trials).mem_iff.1 (List.mem_append_right _ isPassed)
  obtain ⟨object, error, fate⟩ : ∃ object error, trial.fate = .stranded object error := by
    obtain ⟨number, fate⟩ := trial
    cases fate with
    | refused | tagged => cases isStranded
    | stranded object error => exact ⟨object, error, rfl⟩
  have told := isReported.stranded trial isTrial object error fate
  rw [reported_result, mem_tally_failures] at told
  obtain ⟨other, counts, reason, -, same⟩ := told
  exact counted_ne_passedOver distinct counts isPassed (line_inj same).symm

/-- **What a call for machines reports.** Whatever the client does, the result of a call says of
every machine that has been cloned whether it carries both tags, unless a machine is passed over
because a tag of it is said to exist already. The number of machines has 32 bits, so that a call
does not come back to a number by counting on. -/
theorem create_reports {σ : Type} (handler : Handler Told.interface σ) (cloning : Cloning)
    (group : String) (count : UInt32) (state : σ) :
    let ending := (cloning.create Told.client group count.toNat).run.transcript handler state
    ∃ trials result, Tried cloning group trials ending.exchanges ∧ ending.value = some result ∧
      (Reported cloning group count.toNat trials result ↔ ¬Overlooked trials) := by
  intro ending
  obtain ⟨trials, result, tried, value, outcome⟩ :=
    create_transcript handler cloning group count.toNat state
  refine ⟨trials, result, tried, value, ?_⟩
  rcases outcome with ⟨rfl, error, rfl, idle⟩ | ⟨rfl, length⟩
  · constructor
    · rintro - ⟨trial, isPassed, -⟩
      cases isPassed
    · intro
      exact ⟨idle, fun trial isTrial => absurd isTrial List.not_mem_nil, Nat.zero_le _,
        fun isOk => by cases isOk⟩
  · obtain ⟨looks, told, first, -, -, -, fits, numbers⟩ := tried
    have few := length_le_of_counted length
    have small : count.toNat < Nat.pow 2 32 := count.toNat_lt
    have large : Nat.pow 2 32 + mostCollisions ≤ Nat.pow 2 64 := by decide
    have short : trials.length ≤ Nat.pow 2 64 := by omega
    have distinct : (trials.map (·.number)).Nodup := numbers ▸ nodup_numbersFrom fits short
    constructor
    · intro isReported overlooked
      exact not_reported_of_overlooked distinct overlooked isReported
    · exact reported_of_counted length

/-- A client that fails to attach the first tag, because something exists already. -/
def reluctant : Handler Told.interface Bool
  | .resolve _, attached => (⟨.zero, .ok .empty⟩, attached)
  | .name object, attached | .uuid object, attached => (⟨.zero, .ok object.id⟩, attached)
  | .clone request, attached => (⟨.zero, .ok (.vm request.name)⟩, attached)
  | .attach _ _, true => (⟨.zero, .ok ()⟩, true)
  | .attach _ _, false => (⟨.zero, .error (.alreadyExists "boom")⟩, true)

/-- A call for one machine that makes two and is well, though the first one misses its tags. -/
theorem machine_overlooked :
    let cloning : Cloning := ⟨"prod", "tmpl", "", "", .zero⟩
    let ending := (cloning.create Told.client "workers" 1).run.transcript reluctant false
    ∃ trials, Tried cloning "workers" trials ending.exchanges ∧ ending.value = some (.ok ()) ∧
      trials.countP (·.fate.isCloned) = 2 ∧ ¬Reported cloning "workers" 1 trials (.ok ()) := by
  intro cloning ending
  let name := machineName "prod" "workers"
  let first : Trial := ⟨1, .stranded (.vm (name 1)) (.alreadyExists "boom")⟩
  let second : Trial := ⟨2, .tagged (.vm (name 2))⟩
  have tells : Tell cloning "workers" [first, second] (ending.exchanges.drop 2) :=
    .cons (.withoutCluster 1 .zero .zero _ _ (Nat.zero_le _))
      (.cons (.tagged 2 .zero .zero .zero _ (Nat.zero_le _)) .nil)
  have reads : ∀ look ∈ ending.exchanges.take 2, look.question.Reads :=
    List.forall_mem_cons.2 ⟨trivial, List.forall_mem_singleton.2 trivial⟩
  refine ⟨[first, second],
    ⟨_, _, 1, (List.take_append_drop 2 _).symm, reads, tells, by decide, rfl⟩, rfl, rfl,
    fun isReported => ?_⟩
  exact absurd (isReported.clean rfl first List.mem_cons_self) (by decide)

end NodeScaler.Cloning
