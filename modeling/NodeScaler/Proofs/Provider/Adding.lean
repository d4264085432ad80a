import NodeScaler.Proofs.Provider.Outcomes

/-!
# Resizes add up

Two resizes of a group that go well one after the other come to the same as one resize by the sum,
if they pass over no more taken names together than one may. The second one goes on with the number
where the first one stopped, since the last machine of the first one bears the greatest number of
all members; and the trials of both together are just those that are needed for the sum.
-/

namespace NodeScaler

open Plan (Gives)

namespace Cloning

variable {cloning : Cloning} {group : String} {memory : Memory} {collisions count : Nat}
  {trials : List Trial}

/-! ## Trials that go well -/

/-- A call goes well if all trials that count make a member. -/
theorem result_tally_eq_ok_iff :
    (tally cloning group trials).result count = .ok () ↔
      ∀ trial ∈ trials, trial.fate.isTagged = true := by
  have sum := tally_sum cloning group trials
  rw [tally_created] at sum
  have noFailure : (tally cloning group trials).failures = [] ↔
      trials.countP (·.fate.isTagged) = trials.length := by
    rw [← List.length_eq_zero_iff]
    omega
  rw [← List.countP_eq_length, ← noFailure, ← List.isEmpty_iff, Account.result]
  split
  · next none => simp [none]
  · next some => simp [some]

/-- A trial that makes a member does not end with a taken name. -/
theorem not_isTaken_of_isTagged {fate : Fate} (isTagged : fate.isTagged = true) :
    fate.isTaken = false := by
  cases fate with
  | refused | stranded => cases isTagged
  | tagged object => rfl

/-- If all taken names may be passed over, the others count. -/
theorem counted_eq_filter (few : trials.countP (·.fate.isTaken) ≤ collisions) :
    counted collisions trials = trials.filter fun trial => !trial.fate.isTaken := by
  induction trials generalizing collisions with
  | nil => exact counted_nil collisions
  | cons first rest inductionHypothesis =>
    rw [List.countP_cons] at few
    cases collisions with
    | zero =>
      have none := List.countP_eq_zero.1 (Nat.le_zero.1 (Nat.le_trans (Nat.le_add_right _ _) few))
      have free : first.fate.isTaken = false := by
        cases isTaken : first.fate.isTaken with
        | true => simp [isTaken] at few
        | false => rfl
      rw [counted, List.filter_eq_self.2]
      intro trial isIn
      rcases List.mem_cons.1 isIn with rfl | isLater
      · simp [free]
      · simpa using none trial isLater
    | succ collisions =>
      rw [counted]
      by_cases isTaken : first.fate.isTaken = true
      · rw [if_pos isTaken] at few ⊢
        rw [inductionHypothesis (by omega), List.filter_cons_of_neg (by simp [isTaken])]
      · rw [if_neg isTaken] at few ⊢
        rw [inductionHypothesis few, List.filter_cons_of_pos (by simp [isTaken])]

/-- If all trials that count make a member, then all taken names have been passed over. -/
theorem countP_isTaken (all : ∀ trial ∈ counted collisions trials, trial.fate.isTagged = true) :
    trials.countP (·.fate.isTaken) ≤ collisions ∧
      (counted collisions trials).length + trials.countP (·.fate.isTaken) = trials.length := by
  have perm := counted_perm collisions trials
  have free : (counted collisions trials).countP (·.fate.isTaken) = 0 :=
    List.countP_eq_zero.2 fun trial counts => by simp [not_isTaken_of_isTagged (all trial counts)]
  have taken : (passedOver collisions trials).countP (·.fate.isTaken) =
      (passedOver collisions trials).length :=
    List.countP_eq_length.2 fun trial isPassed => passedOver_taken isPassed
  have parts := perm.countP_eq (·.fate.isTaken)
  have lengths := perm.length_eq
  have most : (passedOver collisions trials).length ≤ collisions := List.length_take_le _ _
  rw [List.countP_append, free, taken] at parts
  rw [List.length_append] at lengths
  omega

/-- If all trials that count make a member, then no other trial does. -/
theorem countP_isTagged (all : ∀ trial ∈ counted collisions trials, trial.fate.isTagged = true) :
    trials.countP (·.fate.isTagged) = (counted collisions trials).length := by
  rw [← countP_counted fun trial isPassed isTagged => ?_, List.countP_eq_length.2 all]
  have free := not_isTaken_of_isTagged isTagged
  rw [passedOver_taken isPassed] at free
  cases free

/-- All trials that count have led to machines with both tags just if these are the trials that count,
and all others are passed over. -/
theorem counted_tagged_iff {trials : List Trial} :
    (∀ trial ∈ counted collisions trials, trial.fate.isTagged = true) ↔
      ∀ trial ∈ trials, trial ∈ counted collisions trials ↔ trial.fate.isTagged = true := by
  constructor
  · intro tagged trial isTrial
    refine ⟨tagged trial, fun isTagged => ?_⟩
    rcases List.mem_append.1 ((counted_perm collisions trials).mem_iff.2 isTrial) with counts | passed
    · exact counts
    · have taken := passedOver_taken passed
      rw [not_isTaken_of_isTagged isTagged] at taken
      cases taken
  · intro same trial counts
    have isTrial : trial ∈ trials :=
      (counted_perm collisions trials).mem_iff.1 (List.mem_append_left _ counts)
    exact (same trial isTrial).1 counts

/-- If all taken names may be passed over, trials count in parts. -/
theorem counted_append_of_few {later : List Trial}
    (few : (trials ++ later).countP (·.fate.isTaken) ≤ collisions) :
    counted collisions (trials ++ later) = counted collisions trials ++ counted collisions later := by
  have parts := few
  rw [List.countP_append] at parts
  rw [counted_eq_filter few, List.filter_append, counted_eq_filter (by omega),
    counted_eq_filter (by omega)]

/-- Trials that are enough for some machines and then for others are enough for all of them, if all
taken names may be passed over. -/
theorem Enough.append {more : Nat} {later : List Trial} (enough : Enough collisions count trials)
    (enoughLater : Enough collisions more later)
    (few : (trials ++ later).countP (·.fate.isTaken) ≤ collisions) :
    Enough collisions (count + more) (trials ++ later) := by
  have few_take (fewer : Nat) :
      ((trials ++ later).take fewer).countP (·.fate.isTaken) ≤ collisions :=
    Nat.le_trans (List.take_sublist _ _).countP_le few
  refine ⟨?_, fun fewer isFewer => ?_⟩
  · rw [counted_append_of_few few, List.length_append, enough.1, enoughLater.1]
  · have part := few_take fewer
    by_cases isShort : fewer < trials.length
    · have short := enough.2 fewer isShort
      rw [List.take_append_of_le_length (Nat.le_of_lt isShort)]
      omega
    · obtain ⟨rest, rfl⟩ := Nat.exists_eq_add_of_le (Nat.not_lt.1 isShort)
      have isLess : rest < later.length := by
        rw [List.length_append] at isFewer
        omega
      have short := enoughLater.2 rest isLess
      rw [List.take_length_add_append] at part ⊢
      rw [counted_append_of_few part, List.length_append, enough.1]
      omega

/-- As many trials as are needed are at least as many as count. -/
theorem Enough.le_length (enough : Enough collisions count trials) : count ≤ trials.length := by
  have all := (counted_perm collisions trials).length_eq
  rw [List.length_append, enough.1] at all
  omega

/-- The last of the trials that are needed counts. -/
theorem Enough.last_counts (enough : Enough collisions count trials) (positive : 0 < count)
    (few : trials.countP (·.fate.isTaken) ≤ collisions) :
    ∃ front last, trials = front ++ [last] ∧ last ∈ counted collisions trials := by
  have notEmpty : trials ≠ [] := by
    rintro rfl
    rw [Enough, counted_nil] at enough
    exact Nat.ne_of_lt positive enough.1
  refine ⟨trials.dropLast, trials.getLast notEmpty, (List.dropLast_append_getLast notEmpty).symm, ?_⟩
  have short := enough.2 (trials.length - 1) (Nat.sub_lt (List.length_pos_iff.2 notEmpty) Nat.one_pos)
  have isPart := List.take_sublist (trials.length - 1) trials
  rw [counted_eq_filter (Nat.le_trans isPart.countP_le few), ← List.dropLast_eq_take] at short
  have all := enough.1
  rw [counted_eq_filter few] at all ⊢
  rw [List.mem_filter]
  refine ⟨List.getLast_mem notEmpty, ?_⟩
  by_contra isTaken
  have dropped : [trials.getLast notEmpty].filter (fun trial => !trial.fate.isTaken) = [] :=
    List.filter_eq_nil_iff.2 fun trial isLast => List.mem_singleton.1 isLast ▸ isTaken
  rw [← List.dropLast_append_getLast notEmpty, List.filter_append, dropped, List.append_nil] at all
  omega

/-! ## Where the next call begins -/

/-- The names of a group after trials. -/
theorem namesIn_afterTrials_perm (cloning : Cloning) (group : String) (sound : memory.Sound)
    (length number : Nat) :
    let trials := cloning.trialsIn group length number memory
    (namesIn cloning.cluster group (cloning.afterTrials group trials memory)).Perm
      (namesIn cloning.cluster group memory ++ (trials.filter (·.fate.isTagged)).map fun trial =>
        machineName cloning.cluster group trial.number) := by
  intro trials
  rw [← names_joining fun trial isTrial => isTagged_of_mem_trialsIn isTrial]
  exact namesIn_grow_perm sound

/-- A group grows by the trials that make a member. -/
theorem live_afterTrials (cloning : Cloning) (group : String) (sound : memory.Sound)
    (length number : Nat) :
    let trials := cloning.trialsIn group length number memory
    (cloning.afterTrials group trials memory).live cloning.cluster group =
      memory.live cloning.cluster group + trials.countP (·.fate.isTagged) := by
  intro trials
  have names := (namesIn_afterTrials_perm cloning group sound length number).length_eq
  rw [List.length_append, List.length_map, namesIn, List.length_map, namesIn, List.length_map,
    ← List.countP_eq_length_filter] at names
  exact names

/-- The number of a trial is read off the name that it tries. -/
theorem number_of_mem_trialsIn {trial : Trial} {length number : Nat}
    (isTrial : trial ∈ cloning.trialsIn group length number memory)
    (fits : number + length ≤ Nat.pow 2 64) :
    trial.number < number + length ∧ numberAfter? (stem cloning.cluster group)
      (machineName cloning.cluster group trial.number) = some trial.number := by
  have numbers := numbers_trialsIn cloning group length number memory
  rw [numbersFrom_eq_range' fits] at numbers
  have isIn : trial.number ∈ List.range' number length := numbers ▸ List.mem_map_of_mem isTrial
  obtain ⟨-, below⟩ := List.mem_range'_1.1 isIn
  exact ⟨below, numberAfter?_machineName _ _ (Nat.lt_of_lt_of_le below fits)⟩

/-- The last trial bears the last number. -/
theorem number_of_trialsIn_eq_concat {front : List Trial} {last : Trial} {length number : Nat}
    (isAll : cloning.trialsIn group length number memory = front ++ [last])
    (fits : number + length ≤ Nat.pow 2 64) : last.number + 1 = number + length := by
  have isLength := length_trialsIn cloning group length number memory
  have numbers := numbers_trialsIn cloning group length number memory
  rw [numbersFrom_eq_range' fits] at numbers
  have isNumber := congrArg (·[front.length]?) numbers
  rw [isAll, List.length_append, List.length_singleton] at isLength
  subst isLength
  simp [isAll] at isNumber
  omega

/-- The first number follows the last one, if it fits into 64 bits. -/
theorem firstNumber_eq (fits : cloning.lastNumberIn group memory + 1 < Nat.pow 2 64) :
    cloning.firstNumber group memory = cloning.lastNumberIn group memory + 1 :=
  nextNumber_eq fits

/-- After a call that goes well the last number is that of the last trial, unless numbers are counted
past the greatest one. -/
theorem lastNumberIn_afterTrials (sound : memory.Sound) {length : Nat}
    (isTrials : cloning.trialsIn group length (cloning.firstNumber group memory) memory = trials)
    (all : ∀ trial ∈ counted collisions trials, trial.fate.isTagged = true)
    (enough : Enough collisions count trials) (positive : 0 < count)
    (fits : cloning.lastNumberIn group memory + length < Nat.pow 2 64) :
    cloning.lastNumberIn group (cloning.afterTrials group trials memory) =
      cloning.lastNumberIn group memory + length := by
  have isLength := length_trialsIn cloning group length (cloning.firstNumber group memory) memory
  have names := namesIn_afterTrials_perm cloning group sound length
    (cloning.firstNumber group memory)
  -- The last trial counts, so its number is one of a member.
  obtain ⟨few, -⟩ := countP_isTaken all
  obtain ⟨front, last, isAll, counts⟩ := enough.last_counts positive few
  have some : 0 < length := by
    rw [← isLength, isTrials, isAll, List.length_append, List.length_singleton]
    exact Nat.succ_pos _
  have isFirst : cloning.firstNumber group memory = cloning.lastNumberIn group memory + 1 :=
    firstNumber_eq (by omega)
  have room : cloning.firstNumber group memory + length ≤ Nat.pow 2 64 := by omega
  have bears {trial : Trial} (isTrial : trial ∈ trials) :=
    number_of_mem_trialsIn (isTrials ▸ isTrial) room
  rw [isTrials] at isLength names
  have isAfter : cloning.lastNumberIn group (cloning.afterTrials group trials memory) = _ :=
    lastNumber_perm names
  rw [isAfter]
  apply Nat.le_antisymm
  · obtain ⟨fewNames, smallNumbers⟩ := le_lastNumber (stem cloning.cluster group)
      (namesIn cloning.cluster group memory)
    rw [← lastNumberIn] at fewNames smallNumbers
    rw [← Nat.lt_succ_iff, lastNumber_lt_iff]
    refine ⟨?_, fun name isName number isNumber => ?_⟩
    · have most := List.length_filter_le (fun trial : Trial => trial.fate.isTagged) trials
      rw [List.length_append, List.length_map]
      omega
    · rcases List.mem_append.1 isName with isOld | isNew
      · have small := smallNumbers name isOld number isNumber
        omega
      · obtain ⟨trial, isTrial, rfl⟩ := List.mem_map.1 isNew
        obtain ⟨below, same⟩ := bears (List.mem_filter.1 isTrial).1
        rw [same] at isNumber
        cases isNumber
        omega
  · have isTrial : last ∈ trials := isAll ▸ List.mem_append_right _ (List.mem_singleton_self last)
    have isName : machineName cloning.cluster group last.number ∈
        namesIn cloning.cluster group memory ++ (trials.filter (·.fate.isTagged)).map fun trial =>
          machineName cloning.cluster group trial.number :=
      List.mem_append_right _ (List.mem_map_of_mem (List.mem_filter.2 ⟨isTrial, all _ counts⟩))
    have isLast := number_of_trialsIn_eq_concat (isTrials.trans isAll) room
    have isBorne := (le_lastNumber _ _).2 _ isName _ (bears isTrial).2
    omega

end Cloning

/-! ## Two resizes -/

namespace NodeGroup

variable {cloning : Cloning} {group : NodeGroup} {memory : Memory} {cells : List Nat} {delta : Int}

open Cloning

/-- A resize that goes well: there was room for the machines, all trials that count have made a
member, and the target has grown by as many. -/
structure Grows (cloning : Cloning) (group : NodeGroup) (delta : Int) (cells : List Nat)
    (memory : Memory) (trials : List Trial) (last : Unit × List Nat × Memory) : Prop where
  /-- There was room. -/
  room : memory.live cloning.cluster group.spec.name % Nat.pow 2 32 + delta.toNat ≤
    group.spec.maxSize
  /-- All trials that count have made a member. -/
  all : ∀ trial ∈ counted mostCollisions trials, trial.fate.isTagged = true
  /-- The trials were those that are needed. -/
  enough : Enough mostCollisions delta.toNat trials
  /-- What is left. -/
  last : last = ((), cells.set group.cell
      (min (cells.getD group.cell 0 + delta.toNat) group.spec.maxSize),
    cloning.afterTrials group.spec.name trials memory)

/-- What a resize that goes well does. -/
theorem grows_of_gives (sound : memory.Sound) (positive : 0 < delta)
    {last : Unit × List Nat × Memory}
    (gives : (group.increase (cloning.provisioner Memory.client) delta).run.Gives
      (alone Memory.answer) ((), cells, memory) (.ok ()) last) :
    ∃ length, Grows cloning group delta cells memory (cloning.trialsIn group.spec.name length
      (cloning.firstNumber group.spec.name memory) memory) last := by
  have sized := size_gives cloning group.spec.name memory
  by_cases room : memory.live cloning.cluster group.spec.name % Nat.pow 2 32 + delta.toNat ≤
      group.spec.maxSize
  · obtain ⟨length, created, enough⟩ := create_gives cloning group.spec.name delta.toNat sound
    have made : (group.increase (cloning.provisioner Memory.client) delta).run.Gives
        (alone Memory.answer) ((), cells, memory) _ _ := increase_made positive sized room created
    obtain ⟨isResult, isLast⟩ := made.unique gives
    have all := result_tally_eq_ok_iff.1 isResult
    rw [isResult] at isLast
    exact ⟨length, room, all, enough, isLast.symm⟩
  · have refused : (group.increase (cloning.provisioner Memory.client) delta).run.Gives
        (alone Memory.answer) ((), cells, memory) _ _ :=
      increase_tooMany positive sized (Nat.not_le.1 room)
    cases (refused.unique gives).1

/-- There is no other way for a resize to go well. -/
theorem Grows.gives (sound : memory.Sound) (positive : 0 < delta) {length : Nat}
    {last : Unit × List Nat × Memory}
    (grows : Grows cloning group delta cells memory (cloning.trialsIn group.spec.name length
      (cloning.firstNumber group.spec.name memory) memory) last) :
    (group.increase (cloning.provisioner Memory.client) delta).run.Gives (alone Memory.answer)
      ((), cells, memory) (.ok ()) last := by
  obtain ⟨room, all, enough, rfl⟩ := grows
  obtain ⟨other, created, enoughToo⟩ := create_gives cloning group.spec.name delta.toNat sound
  obtain rfl := enough.unique enoughToo
  rw [result_tally_eq_ok_iff.2 all] at created
  exact increase_made positive (size_gives cloning group.spec.name memory) room created

/-- A target that is raised twice is raised by the sum, up to the greatest size. -/
theorem set_min_set_min (cells : List Nat) (cell first second most : Nat) :
    let raised := cells.set cell (min (cells.getD cell 0 + first) most)
    raised.set cell (min (raised.getD cell 0 + second) most) =
      cells.set cell (min (cells.getD cell 0 + (first + second)) most) := by
  intro raised
  by_cases stored : cell < cells.length
  · have isRaised : raised.getD cell 0 = min (cells.getD cell 0 + first) most := by
      simp [raised, List.getD_eq_getElem?_getD, stored]
    rw [isRaised, List.set_set]
    congr 1
    omega
  · have unchanged (size : Nat) : cells.set cell size = cells :=
      List.set_eq_of_length_le (Nat.not_lt.1 stored)
    simp only [raised, unchanged]

/-- Two resizes that go well are one resize that goes well. -/
theorem Grows.append {first second : Int} {length more : Nat} {middle last : Unit × List Nat × Memory}
    (sound : memory.Sound) (inRange : group.spec.maxSize < Nat.pow 2 32) (positive : 0 < first)
    (positiveToo : 0 < second)
    (grows : Grows cloning group first cells memory (cloning.trialsIn group.spec.name length
      (cloning.firstNumber group.spec.name memory) memory) middle)
    (growsOn : Grows cloning group second middle.2.1 middle.2.2 (cloning.trialsIn group.spec.name more
      (cloning.firstNumber group.spec.name middle.2.2) middle.2.2) last)
    (few : length + more ≤ first.toNat + second.toNat + mostCollisions)
    (fits : cloning.lastNumberIn group.spec.name memory + length + more < Nat.pow 2 64) :
    Grows cloning group (first + second) cells memory (cloning.trialsIn group.spec.name
      (length + more) (cloning.firstNumber group.spec.name memory) memory) last := by
  obtain ⟨room, all, enough, rfl⟩ := grows
  have some := growsOn.enough.le_length
  rw [length_trialsIn] at some
  have isLast := lastNumberIn_afterTrials sound rfl all enough (by omega) (by omega)
  have goesOn : cloning.firstNumber group.spec.name (cloning.afterTrials group.spec.name
      (cloning.trialsIn group.spec.name length (cloning.firstNumber group.spec.name memory) memory)
        memory) = following^[length] (cloning.firstNumber group.spec.name memory) := by
    rw [firstNumber_eq (by omega), isLast, firstNumber_eq (by omega), iterate_following (by omega),
      Nat.mod_eq_of_lt (by omega), Nat.add_right_comm]
  have live := live_afterTrials cloning group.spec.name sound length
    (cloning.firstNumber group.spec.name memory)
  have lengths := length_trialsIn cloning group.spec.name length
    (cloning.firstNumber group.spec.name memory) memory
  dsimp only at growsOn live
  rw [goesOn] at growsOn
  obtain ⟨roomLater, allLater, enoughLater, rfl⟩ := growsOn
  have lengthsLater := length_trialsIn cloning group.spec.name more
    (following^[length] (cloning.firstNumber group.spec.name memory))
    (cloning.afterTrials group.spec.name (cloning.trialsIn group.spec.name length (cloning.firstNumber group.spec.name memory) memory)
      memory)
  have sum := Int.toNat_add (Int.le_of_lt positive) (Int.le_of_lt positiveToo)
  rw [trialsIn_add]
  generalize cloning.trialsIn group.spec.name length (cloning.firstNumber group.spec.name memory)
    memory = trials at *
  generalize cloning.trialsIn group.spec.name more
    (following^[length] (cloning.firstNumber group.spec.name memory))
    (cloning.afterTrials group.spec.name trials memory) = later at *
  obtain ⟨-, taken⟩ := countP_isTaken all
  obtain ⟨-, takenLater⟩ := countP_isTaken allLater
  have fewTaken : (trials ++ later).countP (·.fate.isTaken) ≤ mostCollisions := by
    rw [List.countP_append]
    rw [enough.1, lengths] at taken
    rw [enoughLater.1, lengthsLater] at takenLater
    omega
  refine ⟨?_, ?_, ?_, ?_⟩
  · rw [live, countP_isTagged all, enough.1, ← Nat.mod_add_mod,
      Nat.mod_eq_of_lt (Nat.lt_of_le_of_lt room inRange)] at roomLater
    omega
  · rw [counted_append_of_few fewTaken]
    exact List.forall_mem_append.2 ⟨all, allLater⟩
  · rw [sum]
    exact enough.append enoughLater fewTaken
  · rw [afterTrials_append, set_min_set_min, sum]

/-- **Resizes add up.** From an inventory in memory that nobody else changes, two resizes of a group
that go well one after the other, and together pass over no more taken names than one resize may,
come to the same as one resize by the sum: it goes well too, and leaves the same machines with the
same tags, the same requests for clones and the same target. -/
theorem increases_add (cloning : Cloning) (group : NodeGroup) (reachable : memory.Reachable)
    (inRange : group.spec.maxSize < Nat.pow 2 32) {first second : Int} (positive : 0 < first)
    (positiveToo : 0 < second) {middle last : Unit × List Nat × Memory}
    (once : (group.increase (cloning.provisioner Memory.client) first).run.Gives
      (alone Memory.answer) ((), cells, memory) (.ok ()) middle)
    (twice : (group.increase (cloning.provisioner Memory.client) second).run.Gives
      (alone Memory.answer) middle (.ok ()) last)
    (few : last.2.2.requests.length ≤
      memory.requests.length + (first + second).toNat + mostCollisions)
    (fits : cloning.lastNumberIn group.spec.name memory + last.2.2.requests.length <
      Nat.pow 2 64 + memory.requests.length) :
    (group.increase (cloning.provisioner Memory.client) (first + second)).run.Gives
      (alone Memory.answer) ((), cells, memory) (.ok ()) last := by
  have sound := reachable.sound
  obtain ⟨length, grows⟩ := grows_of_gives sound positive once
  have isMiddle := grows.last
  have soundLater : middle.2.2.Sound := by
    rw [isMiddle]
    exact sound.grow _ _
  obtain ⟨more, growsOn⟩ := grows_of_gives soundLater positiveToo twice
  have requests : last.2.2.requests.length = memory.requests.length + length + more := by
    rw [growsOn.last, isMiddle]
    simp [afterTrials, Nat.add_assoc]
  have sum := Int.toNat_add (Int.le_of_lt positive) (Int.le_of_lt positiveToo)
  have whole := grows.append sound inRange positive positiveToo growsOn (by omega) (by omega)
  exact whole.gives sound (by omega)

/-- An inventory with a worker whose number is written with zeros in front, and a machine that bears
the name of a worker and is none. -/
def gapped : Memory :=
  let memory := Memory.empty.addTemplate "template"
  let memory := (memory.addMachine "prod-workers-007" [clusterTag "prod", groupTag "workers"]).2
  (memory.addMachine "prod-workers-9" [clusterTag "prod"]).2

/-- Two resizes for one and two workers pass over the taken name, as a resize for three does. -/
theorem gapped_add :
    let cloning : Cloning := ⟨"prod", "template", "", "", .seconds 600⟩
    let group : NodeGroup := ⟨⟨"workers", 0, 5⟩, 0⟩
    let provisioner := cloning.provisioner Memory.client
    let first := (group.increase provisioner 1).run.run (alone Memory.answer) ((), [4], gapped)
    let second := (group.increase provisioner 2).run.run (alone Memory.answer) first.state
    (group.increase provisioner (1 + 2)).run.Gives (alone Memory.answer) ((), [4], gapped) (.ok ())
      second.state ∧ second.state.2.1 = [5] ∧ second.state.2.2.machines =
        ["prod-workers-007", "prod-workers-9", "prod-workers-8", "prod-workers-10",
          "prod-workers-11"] := by
  intro cloning group provisioner first second
  have reachable : gapped.Reachable :=
    ((Relation.ReflTransGen.refl.tail (.addTemplate _ _)).tail (.addMachine _ _ _)).tail
      (.addMachine _ _ _)
  have once : first.value = some (.ok ()) := by decide +kernel
  have twice : second.value = some (.ok ()) := by decide +kernel
  have few : second.state.2.2.requests.length ≤
      gapped.requests.length + (1 + 2 : Int).toNat + mostCollisions := by decide +kernel
  have fits : cloning.lastNumberIn "workers" gapped + second.state.2.2.requests.length <
      Nat.pow 2 64 + gapped.requests.length := by decide +kernel
  refine ⟨?_, by decide +kernel, by decide +kernel⟩
  exact increases_add cloning group reachable (by decide) (by decide) (by decide) ⟨once, rfl⟩
    ⟨twice, rfl⟩ few fits

end NodeGroup

end NodeScaler
