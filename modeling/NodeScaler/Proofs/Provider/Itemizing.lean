import Mathlib.Data.List.Nodup
import NodeScaler.Proofs.Provider.Numbering

/-!
# The account of a call, item by item

Whatever a client does, the course of a call for machines can be followed. If the names of the
members cannot be read, the call ends with that failure, and nothing has been cloned or tagged.
Otherwise one machine after the other is asked for, under numbers that are counted on, and the
result is an account of all trials but those that have been passed over. So there are no more trials
than machines called for and names that may be passed over. The numbers are consecutive as long as
they are not counted past the greatest one, and even then each is tried once, unless a call makes as
many trials as there are numbers.
-/

namespace NodeScaler

/-- The machine that a call asks for, if it is for one. -/
def Told.Question.clone? : Told.Question → Option CloneRequest
  | clone request => some request
  | resolve _ | attach _ _ | name _ | uuid _ => none

namespace Cloning

variable {cloning : Cloning} {group : String} {collisions : Nat} {trial : Trial}
  {trials later : List Trial} {told : List (Exchange Told.interface)}

/-! ## Requests for machines -/

/-- The machines that a client has been asked for, in order. -/
def clones (exchanges : List (Exchange Told.interface)) : List CloneRequest :=
  exchanges.filterMap fun exchange => exchange.question.clone?

/-- A trial asks for the machine of its number, once. -/
theorem Tells.clones_eq (tells : Tells cloning group trial told) :
    clones told = [cloning.numbered group trial.number] := by
  cases tells <;> rfl

/-- Trials ask for the machines of their numbers, in order. -/
theorem Tell.clones_eq (tell : Tell cloning group trials told) :
    clones told = (trials.map (·.number)).map (cloning.numbered group) := by
  induction tell with
  | nil => rfl
  | cons one others inductionHypothesis =>
    have own := one.clones_eq
    unfold clones at own inductionHypothesis ⊢
    rw [List.filterMap_append, own, inductionHypothesis]
    rfl

/-- Requests for different machines of a group differ in their names. -/
theorem numbered_injective (cloning : Cloning) (group : String) :
    Function.Injective (cloning.numbered group) := by
  intro first second same
  have names := congrArg CloneRequest.name same
  exact (machineName_inj names).2

/-! ## Failures -/

/-- The report about a trial, if it has failed. -/
def report? (cloning : Cloning) (group : String) (trial : Trial) : Option String :=
  match trial.fate.result with
  | .error error => some (line cloning group trial.number error)
  | .ok () => none

/-- The account of trials has the reports about those that have failed, in order. -/
theorem tally_failures (cloning : Cloning) (group : String) (trials : List Trial) :
    (tally cloning group trials).failures = trials.filterMap (cloning.report? group) := by
  induction trials with
  | nil => rfl
  | cons trial later inductionHypothesis =>
    obtain ⟨number, fate⟩ := trial
    cases fate <;>
      simp [tally, Account.add, report?, Fate.result, line, inductionHypothesis, List.filterMap_cons]

/-- Only trials that are made are passed over. -/
theorem mem_of_mem_passedOver (isPassed : trial ∈ passedOver collisions trials) : trial ∈ trials :=
  List.mem_of_mem_filter (List.mem_of_mem_take isPassed)

/-- A taken name uses up one of those that may be passed over. -/
theorem passedOver_cons_taken (taken : trial.fate.isTaken = true) :
    passedOver (collisions + 1) (trial :: later) = trial :: passedOver collisions later := by
  rw [passedOver, List.filter_cons, if_pos taken, List.take_succ_cons, passedOver]

/-- Another name is not passed over. -/
theorem passedOver_cons_free (free : ¬trial.fate.isTaken = true) :
    passedOver collisions (trial :: later) = passedOver collisions later := by
  rw [passedOver, List.filter_cons, if_neg free, passedOver]

/-- The trials that count are those that are not passed over, in the same order. -/
theorem counted_eq_filter_passedOver (distinct : trials.Nodup) :
    counted collisions trials =
      trials.filter fun trial => trial ∉ passedOver collisions trials := by
  induction trials generalizing collisions with
  | nil => simp
  | cons trial later inductionHypothesis =>
    obtain ⟨isNew, distinctLater⟩ := List.nodup_cons.1 distinct
    cases collisions with
    | zero => simp [counted, passedOver]
    | succ collisions =>
      rw [counted]
      by_cases taken : trial.fate.isTaken = true
      · rw [if_pos taken, passedOver_cons_taken taken, inductionHypothesis distinctLater]
        rw [List.filter_cons_of_neg (by simp)]
        apply List.filter_congr
        intro other isLater
        have differs : other ≠ trial := by
          rintro rfl
          exact isNew isLater
        simp [differs]
      · rw [if_neg taken, passedOver_cons_free taken, inductionHypothesis distinctLater]
        have isKept : trial ∉ passedOver (collisions + 1) later :=
          fun isPassed => isNew (mem_of_mem_passedOver isPassed)
        rw [List.filter_cons_of_pos (by simpa using isKept)]

/-- The failures of a call: the reports about all trials that have failed and are not passed over,
in order. -/
def failures (cloning : Cloning) (group : String) (trials : List Trial) : List String :=
  (counted mostCollisions trials).filterMap (cloning.report? group)

/-! ## The account -/

/-- The account of a call for so many machines that begins with a number, item by item: its trials,
what the client has been asked in them, and the result. -/
structure Itemized (cloning : Cloning) (group : String) (count first : Nat) (trials : List Trial)
    (exchanges : List (Exchange Told.interface)) (result : Except ProviderError Unit) : Prop where
  /-- Each trial is a clone and then, as far as all goes well, the tag of the cluster and the tag
  of the group for the machine that the clone has given. -/
  told : Tell cloning group trials exchanges
  /-- The trials bear numbers that are counted on. -/
  numbers : trials.map (·.number) = numbersFrom first trials.length
  /-- These are consecutive, unless they are counted past the greatest one. -/
  consecutive : first + trials.length ≤ Nat.pow 2 64 →
    trials.map (·.number) = List.range' first trials.length
  /-- The machines that are asked for are those of these numbers, in order. -/
  asked : clones exchanges = (trials.map (·.number)).map (cloning.numbered group)
  /-- No machine is asked for twice, unless there are more trials than numbers. -/
  once : trials.length ≤ Nat.pow 2 64 → (clones exchanges).Nodup
  /-- Then the trials that count are just those that are not passed over. -/
  counts : trials.length ≤ Nat.pow 2 64 → counted mostCollisions trials =
    trials.filter fun trial => trial ∉ passedOver mostCollisions trials
  /-- There is a trial for each machine that was called for, and for each name passed over. -/
  length : trials.length = count + (passedOver mostCollisions trials).length
  /-- There are no more trials than machines called for and names that may be passed over. -/
  few : trials.length ≤ count + mostCollisions
  /-- What was called for is a machine with both tags or a failure. -/
  sum : trials.countP (·.fate.isTagged) + (failures cloning group trials).length = count
  /-- Without a failure all is well. -/
  clean : failures cloning group trials = [] → result = .ok ()
  /-- With a failure the result says how many machines there are, and which failures. -/
  flawed : failures cloning group trials ≠ [] → result = .error (.partialProvisioning count
    (trials.countP (·.fate.isTagged)) (failures cloning group trials))

/-- Trials as makers of machines leave them come to an account, item by item. -/
theorem itemized_of_tell {count first : Nat} (tell : Tell cloning group trials told)
    (enough : (counted mostCollisions trials).length = count) (fits : first < Nat.pow 2 64)
    (numbers : trials.map (·.number) = numbersFrom first trials.length) :
    Itemized cloning group count first trials told
      ((tally cloning group (counted mostCollisions trials)).result count) := by
  have apart (short : trials.length ≤ Nat.pow 2 64) : (trials.map (·.number)).Nodup :=
    numbers ▸ nodup_numbersFrom fits short
  have untagged : ∀ trial ∈ passedOver mostCollisions trials, ¬trial.fate.isTagged = true := by
    intro trial isPassed
    have taken := passedOver_taken isPassed
    obtain ⟨number, fate⟩ := trial
    cases fate with
    | refused error | stranded object error => simp [Fate.isTagged]
    | tagged object => simp [Fate.isTaken, Fate.result] at taken
  have created : (tally cloning group (counted mostCollisions trials)).created =
      trials.countP (·.fate.isTagged) := by
    rw [tally_created, countP_counted untagged]
  have failed : (tally cloning group (counted mostCollisions trials)).failures =
      failures cloning group trials := tally_failures _ _ _
  have length : trials.length = count + (passedOver mostCollisions trials).length := by
    rw [← enough, ← List.length_append]
    exact (counted_perm mostCollisions trials).length_eq.symm
  constructor
  case told => exact tell
  case numbers => exact numbers
  case consecutive =>
    intro room
    rw [numbers, numbersFrom_eq_range' room]
  case asked => exact tell.clones_eq
  case once =>
    intro short
    rw [tell.clones_eq]
    exact (apart short).map (numbered_injective cloning group)
  case counts =>
    intro short
    exact counted_eq_filter_passedOver (List.Nodup.of_map _ (apart short))
  case length => exact length
  case few =>
    have most : (passedOver mostCollisions trials).length ≤ mostCollisions := List.length_take_le _ _
    omega
  case sum => rw [← created, ← failed, tally_sum, enough]
  case clean =>
    intro none
    rw [Account.result, failed, none]
    rfl
  case flawed =>
    intro some
    rw [Account.result, failed, created, if_neg (by simpa using some)]

/-- **A call for machines, item by item.** Whatever the client does: if the names of the members
cannot be read, the call ends with that failure, and has only looked something up; otherwise the
trials begin with the number next to those of the members, and the result is their account. -/
theorem create_itemized {σ : Type} (handler : Handler Told.interface σ) (cloning : Cloning)
    (group : String) (count : Nat) (state : σ) :
    let naming := (cloning.names Told.client group).run.transcript handler state
    let ending := (cloning.create Told.client group count).run.transcript handler state
    (∀ look ∈ naming.exchanges, look.question.Reads) ∧
    ((∃ error, naming.value = some (.error error) ∧ ending.value = some (.error error) ∧
        ending.exchanges = naming.exchanges) ∨
      ∃ existing told trials result, naming.value = some (.ok existing) ∧
        ending.value = some result ∧ ending.exchanges = naming.exchanges ++ told ∧
        Itemized cloning group count (nextNumber (stem cloning.cluster group) existing) trials told
          result) := by
  intro naming ending
  obtain ⟨reads, outcome, value, -⟩ :=
    (names_harmless told_lookups cloning group).transcript handler state
  let rest : List String → Attempt Told.interface ProviderError Unit := fun existing =>
    .mk ((Account.result count ·) <$> cloning.makeAll Told.client group count mostCollisions
      (nextNumber (stem cloning.cluster group) existing))
  refine ⟨reads, ?_⟩
  cases outcome with
  | error error =>
    have whole : ending = _ := Plan.transcript_attempt_error rest value
    rw [whole]
    exact .inl ⟨error, value, rfl, rfl⟩
  | ok existing =>
    have whole : ending = _ := Plan.transcript_attempt rest value
    obtain ⟨trials, tells, account, length, numbers⟩ := makeAll_transcript handler cloning group
      count mostCollisions (nextNumber (stem cloning.cluster group) existing) naming.state
    have mapped : (rest existing).run.transcript handler naming.state = _ :=
      Plan.transcript_map (Account.result count ·) account
    dsimp only at whole
    rw [mapped] at whole
    rw [whole]
    exact .inr ⟨existing, _, trials, _, value, rfl, rfl,
      itemized_of_tell tells length (nextNumber_lt _ _) numbers⟩

end Cloning

end NodeScaler
