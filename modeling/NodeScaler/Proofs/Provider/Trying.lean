import Mathlib.Data.List.Basic
import NodeScaler.Proofs.Plan.Transcript
import NodeScaler.Proofs.Provider.Counting

/-!
# The trials of a call

A call for machines tries one name after the other. A trial is refused when there is no clone, and
stranded when there is one that misses a tag; otherwise its machine carries both tags. Trials that
end with the failure that something exists already are passed over, up to a number of them; all
others count, as a machine or as a failure.

Whatever inventory is behind a client, the trials bear numbers that are counted on, one after the
other, until as many count as are needed. What the call comes to is the account of those that count.
-/

namespace NodeScaler.Cloning

/-- What has become of a trial. -/
inductive Fate where
  /-- There is no machine. -/
  | refused (error : InventoryError)
  /-- There is a machine, but it misses a tag. -/
  | stranded (object : ObjectRef) (error : InventoryError)
  /-- There is a machine with both tags. -/
  | tagged (object : ObjectRef)
deriving DecidableEq

/-- A trial at a machine. -/
structure Trial where
  /-- The number in the machine's name. -/
  number : Nat
  /-- What has become of it. -/
  fate : Fate
deriving DecidableEq

namespace Fate

/-- How the trial ends. -/
def result : Fate → Except InventoryError Unit
  | refused error | stranded _ error => .error error
  | tagged _ => .ok ()

/-- There is a machine. -/
def isCloned : Fate → Bool
  | refused _ => false
  | stranded _ _ | tagged _ => true

/-- There is a machine that misses a tag. -/
def isStranded : Fate → Bool
  | stranded _ _ => true
  | refused _ | tagged _ => false

/-- There is a machine with both tags. -/
def isTagged : Fate → Bool
  | tagged _ => true
  | refused _ | stranded _ _ => false

/-- The trial ends with the failure that something exists already. -/
def isTaken (fate : Fate) : Bool :=
  match fate.result with
  | .error (.alreadyExists _) => true
  | _ => false

/-- A trial is well just if there is a machine with both tags. -/
theorem isTagged_iff (fate : Fate) : fate.isTagged = true ↔ fate.result = .ok () := by
  cases fate <;> simp [isTagged, result]

end Fate

/-! ## Which trials count -/

/-- The trials that count when so many taken names may be passed over. -/
def counted : Nat → List Trial → List Trial
  | 0, trials => trials
  | _ + 1, [] => []
  | collisions + 1, trial :: later =>
    if trial.fate.isTaken then counted collisions later
    else trial :: counted (collisions + 1) later

/-- What trials come to. -/
def tally (cloning : Cloning) (group : String) : List Trial → Account
  | [] => ⟨0, []⟩
  | trial :: later =>
    (tally cloning group later).add cloning group ⟨trial.number, trial.fate.result, 0⟩

/-- Without trials nothing counts. -/
@[simp] theorem counted_nil (collisions : Nat) : counted collisions [] = [] := by
  cases collisions <;> rfl

/-- Of the trials just so many count, and of no beginning of them as many. -/
def Enough (collisions count : Nat) (trials : List Trial) : Prop :=
  (counted collisions trials).length = count ∧
    ∀ fewer, fewer < trials.length → (counted collisions (trials.take fewer)).length < count

section

variable {trial : Trial} {later : List Trial} {collisions count : Nat}

/-- A trial that is not passed over counts. -/
theorem counted_cons (stops : trial.fate.isTaken = true → collisions = 0) (trials : List Trial) :
    counted collisions (trial :: trials) = trial :: counted collisions trials := by
  cases collisions with
  | zero => rw [counted, counted]
  | succ collisions =>
    have free : ¬trial.fate.isTaken = true := fun isTaken =>
      absurd (stops isTaken) (Nat.succ_ne_zero collisions)
    rw [counted, if_neg free]

/-- No trial is needed for no machine. -/
theorem enough_zero {trials : List Trial} : Enough collisions 0 trials ↔ trials = [] := by
  constructor
  · rintro ⟨-, short⟩
    refine List.eq_nil_of_length_eq_zero (Nat.eq_zero_of_not_pos fun positive => ?_)
    exact Nat.not_lt_zero _ (short 0 positive)
  · rintro rfl
    exact ⟨by rw [counted_nil]; rfl, fun fewer isFewer => by cases isFewer⟩

/-- When more trials count with one in front, then as many more are enough. -/
theorem enough_cons {left more : Nat} (begins : ∀ trials : List Trial,
      (counted collisions (trial :: trials)).length = (counted left trials).length + more)
    (positive : 0 < count + more) :
    Enough collisions (count + more) (trial :: later) ↔ Enough left count later := by
  unfold Enough
  rw [begins, Nat.add_right_cancel_iff]
  refine and_congr_right fun _ => ⟨fun short fewer isFewer => ?_, fun short fewer isFewer => ?_⟩
  · have one := short (fewer + 1) (Nat.succ_lt_succ isFewer)
    rw [List.take_succ_cons, begins] at one
    exact Nat.lt_of_add_lt_add_right one
  · cases fewer with
    | zero =>
      rw [List.take_zero, counted_nil]
      exact positive
    | succ fewer =>
      rw [List.take_succ_cons, begins]
      exact Nat.add_lt_add_right (short fewer (Nat.lt_of_succ_lt_succ isFewer)) more

/-- After a taken name that may be passed over as many are needed as before. -/
theorem enough_taken (taken : trial.fate.isTaken = true) :
    Enough (collisions + 1) (count + 1) (trial :: later) ↔ Enough collisions (count + 1) later := by
  have passes (trials : List Trial) :
      counted (collisions + 1) (trial :: trials) = counted collisions trials := if_pos taken
  exact @enough_cons trial later (collisions + 1) (count + 1) collisions 0
    (fun trials => congrArg List.length (passes trials)) (Nat.succ_pos count)

/-- After a trial that counts one less is needed. -/
theorem enough_counts (stops : trial.fate.isTaken = true → collisions = 0) :
    Enough collisions (count + 1) (trial :: later) ↔ Enough collisions count later :=
  enough_cons (fun trials => congrArg List.length (counted_cons stops trials)) (Nat.succ_pos count)

end

variable {I : Interface} {σ : Type} {handler : Handler I σ} {client : InventoryClient I}
  {cloning : Cloning} {group : String}

/-- If there is always one more trial, then there are as many as are needed: what holds of no trials,
and goes on to hold with one more in front, holds of just so many. -/
theorem exists_enough (reaches : Nat → σ → List (Trial × List (Exchange I)) → σ → Prop)
    (none : ∀ number state, reaches number state [] state)
    (one : ∀ number state, ∃ own, ∃ fate : Fate, ∃ middle, ∀ {later last},
      reaches (following number) middle later last →
        reaches number state ((⟨number, fate⟩, own) :: later) last)
    (count collisions number : Nat) (state : σ) :
    ∃ entries last, reaches number state entries last ∧
      Enough collisions count (entries.map Prod.fst) := by
  induction count generalizing collisions number state with
  | zero => exact ⟨[], state, none number state, enough_zero.2 rfl⟩
  | succ count afterCounting =>
    induction collisions generalizing number state with
    | zero =>
      obtain ⟨own, fate, middle, goesOn⟩ := one number state
      obtain ⟨entries, last, others, enough⟩ := afterCounting 0 (following number) middle
      exact ⟨_, last, goesOn others, (enough_counts fun _ => rfl).2 enough⟩
    | succ collisions afterPassing =>
      obtain ⟨own, fate, middle, goesOn⟩ := one number state
      by_cases taken : fate.isTaken = true
      · obtain ⟨entries, last, others, enough⟩ := afterPassing (following number) middle
        exact ⟨_, last, goesOn others, (enough_taken taken).2 enough⟩
      · obtain ⟨entries, last, others, enough⟩ := afterCounting (collisions + 1) (following number) middle
        exact ⟨_, last, goesOn others,
          (enough_counts fun isTaken => absurd isTaken taken).2 enough⟩

/-! ## One step of a call -/

/-- A call for machines makes the trial of the next number; if its name is taken and may be passed
over, then as many are made from the number after it. -/
theorem makeAll_succ (cloning : Cloning) (client : InventoryClient I) (group : String)
    (count collisions number : Nat) :
    cloning.makeAll client group (count + 1) (collisions + 1) number =
      (cloning.make client group (machineName cloning.cluster group number)).run >>= fun
        | .error (.alreadyExists _) => cloning.makeAll client group (count + 1) collisions (following number)
        | result => do
          let account ← cloning.makeAll client group count (collisions + 1) (following number)
          return account.add cloning group ⟨number, result, collisions + 1⟩ := by
  rw [makeAll, makeNext, bind_assoc]
  refine congrArg ((cloning.make client group _).run >>= ·) (funext fun result => ?_)
  rcases result with (_ | _) | _ <;> rfl

variable {number collisions count : Nat} {fate : Fate} {own rest : List (Exchange I)}
  {state middle last : σ} {account : Account}

/-- A taken name is passed over. -/
theorem makeAll_passes
    (made : (cloning.make client group (machineName cloning.cluster group number)).run.transcript
      handler state = ⟨own, some fate.result, middle⟩) (taken : fate.isTaken = true)
    (others : (cloning.makeAll client group (count + 1) collisions (following number)).transcript handler
      middle = ⟨rest, some account, last⟩) :
    (cloning.makeAll client group (count + 1) (collisions + 1) number).transcript handler state =
      ⟨own ++ rest, some account, last⟩ := by
  obtain ⟨text, isTaken⟩ : ∃ text, fate.result = .error (.alreadyExists text) := by
    unfold Fate.isTaken at taken
    split at taken
    · next text isTaken => exact ⟨text, isTaken⟩
    · cases taken
  rw [isTaken] at made
  rw [makeAll_succ]
  exact Plan.transcript_then made others

/-- A trial that counts is the next one. -/
theorem makeNext_counts
    (made : (cloning.make client group (machineName cloning.cluster group number)).run.transcript
      handler state = ⟨own, some fate.result, middle⟩)
    (stops : fate.isTaken = true → collisions = 0) :
    (cloning.makeNext client group collisions number).transcript handler state =
      ⟨own, some ⟨number, fate.result, collisions⟩, middle⟩ := by
  cases collisions with
  | zero =>
    rw [makeNext, Plan.transcript_bind _ (congrArg Transcript.value made), made]
    simp
  | succ collisions =>
    have free : fate.isTaken = false := by
      cases isTaken : fate.isTaken with
      | false => rfl
      | true => exact absurd (stops isTaken) (Nat.succ_ne_zero collisions)
    rw [makeNext, Plan.transcript_bind _ (congrArg Transcript.value made), made]
    unfold Fate.isTaken at free
    dsimp only
    split
    · next text isTaken =>
      rw [isTaken] at free
      cases free
    · simp

/-- A trial that counts is put into the account. -/
theorem makeAll_counts
    (made : (cloning.make client group (machineName cloning.cluster group number)).run.transcript
      handler state = ⟨own, some fate.result, middle⟩) (stops : fate.isTaken = true → collisions = 0)
    (others : (cloning.makeAll client group count collisions (following number)).transcript handler
      middle = ⟨rest, some account, last⟩) :
    (cloning.makeAll client group (count + 1) collisions number).transcript handler state =
      ⟨own ++ rest, some (account.add cloning group ⟨number, fate.result, 0⟩), last⟩ := by
  have next := makeNext_counts made stops
  rw [makeAll]
  exact Plan.transcript_then next (Plan.transcript_handed others _)

/-! ## The whole call -/

/-- Trials of numbers that are counted on, each with what was exchanged in it. -/
inductive Tries (cloning : Cloning) (client : InventoryClient I) (group : String)
    (handler : Handler I σ) : Nat → σ → List (Trial × List (Exchange I)) → σ → Prop where
  /-- There was none. -/
  | nil (number : Nat) (state : σ) : Tries cloning client group handler number state [] state
  /-- The first one and the others. -/
  | cons {number : Nat} {fate : Fate} {own : List (Exchange I)} {state middle last : σ}
      {later : List (Trial × List (Exchange I))}
      (made : (cloning.make client group (machineName cloning.cluster group number)).run.transcript
        handler state = ⟨own, some fate.result, middle⟩)
      (others : Tries cloning client group handler (following number) middle later last) :
      Tries cloning client group handler number state ((⟨number, fate⟩, own) :: later) last

/-- What holds of every trial that may be made holds of those that have been. -/
theorem Tries.forall {holds : Nat → Fate → List (Exchange I) → Prop} {number : Nat}
    {state last : σ} {entries : List (Trial × List (Exchange I))}
    (tries : Tries cloning client group handler number state entries last)
    (each : ∀ {number fate own state middle},
      (cloning.make client group (machineName cloning.cluster group number)).run.transcript
        handler state = ⟨own, some fate.result, middle⟩ → holds number fate own) :
    ∀ entry ∈ entries, holds entry.1.number entry.1.fate entry.2 := by
  induction tries with
  | nil => exact List.forall_mem_nil _
  | cons made others inductionHypothesis =>
    exact List.forall_mem_cons.2 ⟨each made, inductionHypothesis⟩

/-- The trials bear numbers that are counted on. -/
theorem Tries.numbers {entries : List (Trial × List (Exchange I))}
    (tries : Tries cloning client group handler number state entries last) :
    (entries.map Prod.fst).map (·.number) = numbersFrom number (entries.map Prod.fst).length := by
  induction tries with
  | nil => rfl
  | cons made others inductionHypothesis =>
    rw [List.map_cons, List.map_cons, inductionHypothesis]
    rfl

/-- The trials of a call decide what it comes to. -/
theorem Tries.makeAll {entries : List (Trial × List (Exchange I))}
    (tries : Tries cloning client group handler number state entries last)
    (enough : Enough collisions count (entries.map Prod.fst)) :
    (cloning.makeAll client group count collisions number).transcript handler state =
      ⟨entries.flatMap Prod.snd,
        some (tally cloning group (counted collisions (entries.map Prod.fst))), last⟩ := by
  induction tries generalizing count collisions with
  | nil =>
    obtain rfl : count = 0 := by
      rw [← enough.1, List.map_nil, counted_nil, List.length_nil]
    rw [List.map_nil, counted_nil]
    rfl
  | @cons number fate own state middle last later made others inductionHypothesis =>
    cases count with
    | zero => cases enough_zero.1 enough
    | succ count =>
      rw [List.map_cons, List.flatMap_cons] at *
      by_cases stops : fate.isTaken = true → collisions = 0
      · have rest := inductionHypothesis ((enough_counts stops).1 enough)
        have counts : counted collisions (⟨number, fate⟩ :: later.map Prod.fst) = _ :=
          counted_cons stops _
        rw [makeAll_counts made stops rest, counts]
        rfl
      · obtain ⟨taken, more⟩ := Classical.not_imp.1 stops
        obtain ⟨collisions, rfl⟩ := Nat.exists_eq_succ_of_ne_zero more
        have rest := inductionHypothesis ((enough_taken taken).1 enough)
        rw [makeAll_passes made taken rest, counted, if_pos taken]

/-- If making a machine always comes to an end, then as many trials are made as are needed. -/
theorem tries_enough (ends : ∀ number state, ∃ own, ∃ fate : Fate, ∃ middle,
      (cloning.make client group (machineName cloning.cluster group number)).run.transcript
        handler state = ⟨own, some fate.result, middle⟩) (count collisions number : Nat) (state : σ) :
    ∃ entries last, Tries cloning client group handler number state entries last ∧
      Enough collisions count (entries.map Prod.fst) := by
  refine exists_enough _ (fun number state => .nil number state) (fun number state => ?_) count
    collisions number state
  obtain ⟨own, fate, middle, made⟩ := ends number state
  exact ⟨own, fate, middle, .cons made⟩

/-- Without the names of the members no trial is made. -/
theorem create_unnamed {naming : List (Exchange I)} {error : ProviderError}
    (unnamed : (cloning.names client group).run.transcript handler state =
      ⟨naming, some (.error error), last⟩) (count : Nat) :
    (cloning.create client group count).run.transcript handler state =
      ⟨naming, some (.error error), last⟩ :=
  Plan.transcript_attempt_stops unnamed

/-- With the names of the members, the trials decide what a call comes to. -/
theorem create_named {naming : List (Exchange I)} {names : List String}
    {entries : List (Trial × List (Exchange I))}
    (named : (cloning.names client group).run.transcript handler state =
      ⟨naming, some (.ok names), middle⟩)
    (tries : Tries cloning client group handler (nextNumber (stem cloning.cluster group) names) middle
      entries last) (enough : Enough mostCollisions count (entries.map Prod.fst)) :
    (cloning.create client group count).run.transcript handler state =
      ⟨naming ++ entries.flatMap Prod.snd,
        some ((tally cloning group (counted mostCollisions (entries.map Prod.fst))).result count),
        last⟩ :=
  Plan.transcript_attempt_then named
    (Plan.transcript_handed (tries.makeAll enough) (Account.result count ·))

end NodeScaler.Cloning
