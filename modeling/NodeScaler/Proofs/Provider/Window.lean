import NodeScaler.Proofs.Inventory.Carried
import NodeScaler.Proofs.Provider.Adding
import NodeScaler.Proofs.Provider.Commuting
import NodeScaler.Proofs.Provider.Itemizing

/-!
# The numbers that a call tries

What a call for machines does to an inventory in memory can be foreseen from the inventory as it
stands. No trial has an effect on the others, since they are of different numbers: a clone fails
that is made to fail, a name is taken that a machine bore before the call, and all others become
members. So the call tries the shortest run of numbers of which as many remain as machines are
called for, after the first taken ones have been dropped. They are consecutive, unless they are
counted past the greatest number of 64 bits.

If clones are late, no machine is made. The delay of a clone and the time that it may take are both
set as timers, which go off at whole milliseconds and after thirty years at the latest. So a clone
that takes longer than it may by less than a millisecond can be in time, and a limit of thirty
years or more is kept by every clone.
-/

namespace NodeScaler.Cloning

variable {cloning : Cloning} {group : String} {memory other : Memory} {collisions count : Nat}
  {numbers : List Nat} {trials : List Trial}

/-! ## Trials that are foreseen -/

/-- The trials of some numbers, each as if it were the first one. -/
def foreseen (cloning : Cloning) (group : String) (memory : Memory) (numbers : List Nat) :
    List Trial :=
  numbers.map fun number => ⟨number, cloning.fateIn group number memory⟩

/-- If one trial ends as another one does, and that one as a third one, so do the first and the
third one. -/
theorem Trial.Like.trans {first second third : Trial} (like : first.Like second)
    (likeToo : second.Like third) : first.Like third where
  number := like.number.trans likeToo.number
  isCloned := like.isCloned.trans likeToo.isCloned
  result := like.result.trans likeToo.result

/-- After the trial of another number, a trial ends as it would have ended before. -/
theorem fateIn_afterTrials {trial : Trial} {number : Nat} (differ : trial.number ≠ number) :
    Trial.Like ⟨number, cloning.fateIn group number (cloning.afterTrials group [trial] memory)⟩
      ⟨number, cloning.fateIn group number memory⟩ := by
  have sameNames : machineName cloning.cluster group number ∈
      (cloning.afterTrials group [trial] memory).machines ↔
        machineName cloning.cluster group number ∈ memory.machines := by
    rw [afterTrials, Memory.grow_machines, List.mem_append, or_iff_left]
    intro isNew
    obtain ⟨addition, isAddition, isName⟩ := List.mem_map.1 isNew
    obtain ⟨one, isOne, adds⟩ := List.mem_filterMap.1 isAddition
    obtain rfl := List.mem_singleton.1 isOne
    unfold addition? at adds
    split at adds
    · cases adds
      exact differ (machineName_inj isName).2
    · cases adds
  have refused : cloning.refusal? (machineName cloning.cluster group number)
      (cloning.afterTrials group [trial] memory) =
        cloning.refusal? (machineName cloning.cluster group number) memory := by
    simp only [refusal?, sameNames]
    rfl
  unfold fateIn
  rw [refused, missing?_afterTrials]
  split
  · exact ⟨rfl, rfl, rfl⟩
  · split <;> exact ⟨rfl, rfl, rfl⟩

/-- Trials end as they are foreseen in an inventory in which the trials of these numbers would end
the same way. -/
theorem trialsIn_like (length number : Nat) (distinct : (numbersFrom number length).Nodup)
    (alike : ∀ later ∈ numbersFrom number length, Trial.Like
      ⟨later, cloning.fateIn group later other⟩ ⟨later, cloning.fateIn group later memory⟩) :
    List.Forall₂ Trial.Like (cloning.trialsIn group length number other)
      (cloning.foreseen group memory (numbersFrom number length)) := by
  induction length generalizing number other with
  | zero => exact .nil
  | succ length inductionHypothesis =>
    rw [numbersFrom_succ] at distinct alike ⊢
    obtain ⟨isNew, distinctLater⟩ := List.nodup_cons.1 distinct
    obtain ⟨alikeNow, alikeLater⟩ := List.forall_mem_cons.1 alike
    apply List.Forall₂.cons alikeNow
    apply inductionHypothesis _ distinctLater
    intro later isLater
    have differs : number ≠ later := by
      rintro rfl
      exact isNew isLater
    let trial : Trial := ⟨number, cloning.fateIn group number other⟩
    have unchanged : Trial.Like
        ⟨later, cloning.fateIn group later (cloning.afterTrials group [trial] other)⟩
        ⟨later, cloning.fateIn group later other⟩ := fateIn_afterTrials differs
    exact unchanged.trans (alikeLater later isLater)

/-- The numbers that remain when the first ones of a kind have been dropped. -/
def dropFirst (kind : Nat → Bool) (collisions : Nat) (numbers : List Nat) : List Nat :=
  numbers.filter fun number => number ∉ (numbers.filter kind).take collisions

/-- Of foreseen trials those are passed over whose numbers are the first taken ones. -/
theorem passedOver_foreseen (collisions : Nat) (numbers : List Nat) :
    passedOver collisions (cloning.foreseen group memory numbers) = cloning.foreseen group memory
      ((numbers.filter fun number => (cloning.fateIn group number memory).isTaken).take
        collisions) := by
  rw [passedOver, foreseen, List.filter_map, foreseen, List.map_take]
  rfl

/-- Foreseen trials of different numbers are different. -/
theorem foreseen_injective (cloning : Cloning) (group : String) (memory : Memory) :
    Function.Injective fun number : Nat =>
      (⟨number, cloning.fateIn group number memory⟩ : Trial) :=
  fun _ _ same => congrArg Trial.number same

/-- Of foreseen trials those count whose numbers remain. -/
theorem counted_foreseen (distinct : numbers.Nodup) :
    counted collisions (cloning.foreseen group memory numbers) = cloning.foreseen group memory
      (dropFirst (fun number => (cloning.fateIn group number memory).isTaken) collisions numbers) := by
  have distinctToo : (cloning.foreseen group memory numbers).Nodup :=
    distinct.map (foreseen_injective cloning group memory)
  rw [counted_eq_filter_passedOver distinctToo, passedOver_foreseen]
  unfold foreseen dropFirst
  rw [List.filter_map]
  congr 1
  apply List.filter_congr
  intro number _
  have sameMember := List.mem_map_of_injective (foreseen_injective cloning group memory)
    (a := number) (l := (numbers.filter fun number =>
      (cloning.fateIn group number memory).isTaken).take collisions)
  simp only [Function.comp_apply, sameMember]

/-- All trials that count make a member if all trials make one or end with a taken name, and all
taken names may be passed over. -/
theorem counted_allTagged_iff : (∀ trial ∈ counted collisions trials, trial.fate.isTagged = true) ↔
    (∀ trial ∈ trials, trial.fate.isTagged = true ∨ trial.fate.isTaken = true) ∧
      trials.countP (·.fate.isTaken) ≤ collisions := by
  constructor
  · intro all
    constructor
    · intro trial isTrial
      have either := (counted_perm collisions trials).mem_iff.2 isTrial
      rcases List.mem_append.1 either with counts | isPassed
      · exact .inl (all trial counts)
      · exact .inr (passedOver_taken isPassed)
    · exact (countP_isTaken all).1
  · rintro ⟨either, few⟩ trial counts
    rw [counted_eq_filter few] at counts
    obtain ⟨isTrial, free⟩ := List.mem_filter.1 counts
    apply (either trial isTrial).resolve_right
    simpa using free

/-! ## Numbers -/

/-- The clone of a number is made to fail. -/
def failsIn (cloning : Cloning) (group : String) (memory : Memory) (number : Nat) : Bool :=
  decide (machineName cloning.cluster group number ∈ memory.failing)

/-- A machine bears the name of a number, the clone of which is not made to fail. -/
def takenIn (cloning : Cloning) (group : String) (memory : Memory) (number : Nat) : Bool :=
  !cloning.failsIn group memory number &&
    decide (machineName cloning.cluster group number ∈ memory.machines)

/-- The clone of a number is not made to fail, and no machine bears its name. -/
def freeIn (cloning : Cloning) (group : String) (memory : Memory) (number : Nat) : Bool :=
  !cloning.failsIn group memory number &&
    decide (machineName cloning.cluster group number ∉ memory.machines)

/-- The numbers that remain when the first taken ones have been dropped, as many as may be. -/
def remaining (cloning : Cloning) (group : String) (memory : Memory) (numbers : List Nat) :
    List Nat :=
  dropFirst (cloning.takenIn group memory) mostCollisions numbers

/-- The failure that is reported of a number, unless it is free. -/
def failureIn? (cloning : Cloning) (group : String) (memory : Memory) (number : Nat) :
    Option String :=
  let name := machineName cloning.cluster group number
  if cloning.failsIn group memory number then
    some (line cloning group number (.request ("clone of " ++ name ++ " failed")))
  else if cloning.takenIn group memory number then
    some (line cloning group number (.alreadyExists ("the name '" ++ name ++ "' already exists")))
  else none

/-- A call finds all that its clones need: the template and both tags. -/
structure Furnished (cloning : Cloning) (group : String) (memory : Memory) : Prop where
  /-- There is the template. -/
  template : cloning.template ∈ memory.templates
  /-- There is the tag of the cluster. -/
  cluster : memory.hasTag (clusterTag cloning.cluster) = true
  /-- There is the tag of the group. -/
  group : memory.hasTag (groupTag group) = true

/-- No tag is missing. -/
theorem Furnished.missing? (furnished : Furnished cloning group memory) :
    missing? (cloning.tagsFor group) memory = none := by
  simp [Cloning.missing?, tagsFor, furnished.cluster, furnished.group]

/-- Every machine gets both tags. -/
theorem Furnished.takeWhile (furnished : Furnished cloning group memory) :
    (cloning.tagsFor group).takeWhile memory.hasTag = cloning.tagsFor group := by
  simp [tagsFor, furnished.cluster, furnished.group]

/-- Clones are there in time: in whole milliseconds they take no longer than they may, or they may take
as long as anything is waited for. -/
def Punctual (cloning : Cloning) (memory : Memory) : Prop :=
  memory.cloneDelay.roundedUp.nanoseconds ≤ cloning.cloneTimeout.roundedUp.nanoseconds ∨
    Duration.longestWait.nanoseconds ≤ cloning.cloneTimeout.roundedUp.nanoseconds

/-- Clones are there in time just if their delay is over when the timer for them goes off. -/
theorem alarm_le_alarm_iff : memory.cloneDelay.alarm.nanoseconds ≤
    cloning.cloneTimeout.alarm.nanoseconds ↔ Punctual cloning memory := by
  simp only [Punctual, Duration.alarm, Duration.waited]
  omega

/-- Clones are there in time if they take no longer than they may, or may take thirty years. -/
theorem punctual_of_le (early : memory.cloneDelay.nanoseconds ≤ cloning.cloneTimeout.nanoseconds ∨
    Duration.longestWait.nanoseconds ≤ cloning.cloneTimeout.nanoseconds) :
    Punctual cloning memory := by
  simp only [Punctual, Duration.roundedUp, Duration.wholeMilliseconds]
  omega

/-- Clones are late if they take longer than they may by a millisecond, and may not take as long as
anything is waited for. -/
theorem not_punctual_of_lt (slow : cloning.cloneTimeout.nanoseconds + 1000000 ≤
      memory.cloneDelay.nanoseconds)
    (short : cloning.cloneTimeout.nanoseconds + 1000000 ≤ Duration.longestWait.nanoseconds) :
    ¬Punctual cloning memory := by
  simp only [Punctual, Duration.roundedUp, Duration.wholeMilliseconds]
  omega

/-- If clones are late, every number ends with the time that is over. -/
theorem fateIn_late (furnished : Furnished cloning group memory)
    (late : cloning.cloneTimeout.alarm.nanoseconds < memory.cloneDelay.alarm.nanoseconds)
    (number : Nat) :
    cloning.fateIn group number memory = .refused (.timeout cloning.cloneTimeout) := by
  unfold fateIn refusal?
  rw [if_neg (not_not.2 furnished.template), if_pos late]

/-! ## What a call comes to -/

/-- A call for machines does what is foreseen of as many trials as are needed. -/
theorem create_foreseen (cloning : Cloning) (group : String) (count : Nat) (sound : memory.Sound)
    (few : count + mostCollisions ≤ Nat.pow 2 64) :
    ∃ length,
      let numbers := numbersFrom (cloning.firstNumber group memory) length
      let trials := cloning.foreseen group memory numbers
      numbers.Nodup ∧ (cloning.create Memory.client group count).run.Gives Memory.answer memory
        ((tally cloning group (counted mostCollisions trials)).result count)
        (cloning.afterTrials group trials memory) ∧
      Enough mostCollisions count trials := by
  obtain ⟨length, gives, enough⟩ := create_gives cloning group count sound
  have short := length_le_of_counted enough.1
  rw [length_trialsIn] at short
  have distinct : (numbersFrom (cloning.firstNumber group memory) length).Nodup :=
    nodup_numbersFrom (nextNumber_lt _ _) (Nat.le_trans short few)
  have like : List.Forall₂ Trial.Like
      (cloning.trialsIn group length (cloning.firstNumber group memory) memory)
      (cloning.foreseen group memory (numbersFrom (cloning.firstNumber group memory) length)) :=
    trialsIn_like _ _ distinct fun _ _ => ⟨rfl, rfl, rfl⟩
  have same : SameTrials cloning group memory memory := (Indistinct.refl sound).alike
  refine ⟨length, distinct, ?_, enough.like like⟩
  rw [← tally_like (counted_like like), afterTrials, same.additions like, requests_like like]
  exact gives

/-- If no free number is dropped, as many free numbers remain as there are. -/
theorem countP_remaining (numbers : List Nat) :
    (cloning.remaining group memory numbers).countP (cloning.freeIn group memory) =
      (numbers.filter (cloning.freeIn group memory)).length := by
  rw [remaining, dropFirst, List.countP_filter, List.countP_eq_length_filter]
  congr 1
  apply List.filter_congr
  intro number _
  by_cases free : cloning.freeIn group memory number = true
  · have isKept : number ∉ (numbers.filter (cloning.takenIn group memory)).take mostCollisions := by
      intro isDropped
      have taken := (List.mem_filter.1 (List.mem_of_mem_take isDropped)).2
      simp only [freeIn, takenIn, Bool.and_eq_true, decide_eq_true_eq] at free taken
      exact free.2 taken.2
    simp [free, isKept]
  · simp [free]

/-! ### New members -/

/-- The machines of the free ones among some numbers, with both tags. -/
def joining (cloning : Cloning) (group : String) (memory : Memory) (numbers : List Nat) :
    List Addition :=
  (numbers.filter (cloning.freeIn group memory)).map fun number =>
    ⟨machineName cloning.cluster group number, cloning.tagsFor group⟩

/-- Each of them is given both tags. -/
theorem tags_of_mem_joining {addition : Addition}
    (isAddition : addition ∈ cloning.joining group memory numbers) :
    addition.tags = cloning.tagsFor group := by
  obtain ⟨number, -, rfl⟩ := List.mem_map.1 isAddition
  rfl

/-- Each of them becomes a member. -/
theorem countP_joining : (cloning.joining group memory numbers).countP
    (·.joins cloning.cluster group) = (numbers.filter (cloning.freeIn group memory)).length := by
  have all : ∀ addition ∈ cloning.joining group memory numbers,
      addition.joins cloning.cluster group = true := by
    intro addition isAddition
    rw [Addition.joins_iff, tags_of_mem_joining isAddition]
    simp [tagsFor]
  rw [List.countP_eq_length.2 all, joining, List.length_map]

/-- They bring no tags that were not there. -/
theorem tagNames_joining (furnished : Furnished cloning group memory)
    (requests : List CloneRequest) :
    (memory.grow (cloning.joining group memory numbers) requests).tags.map (·.1) =
      memory.tags.map (·.1) := by
  apply Memory.grow_tagNames
  intro addition isAddition tag isGiven
  rw [tags_of_mem_joining isAddition, tagsFor, List.mem_pair] at isGiven
  rcases isGiven with rfl | rfl
  · exact furnished.cluster
  · exact furnished.group

/-- They carry both tags, and no others. -/
theorem mem_tagsOf_joining (reachable : memory.Reachable)
    (furnished : Furnished cloning group memory) (requests : List CloneRequest) {index : Nat}
    (inside : index < (numbers.filter (cloning.freeIn group memory)).length) (tag : String) :
    tag ∈ (memory.grow (cloning.joining group memory numbers) requests).tagsOf
        (Memory.machine (memory.machines.length + index + 1)) ↔
      tag = clusterTag cloning.cluster ∨ tag = groupTag group := by
  have distinct : (memory.grow (cloning.joining group memory numbers) requests).Distinct := by
    rw [Memory.Distinct, tagNames_joining furnished]
    exact reachable.distinct
  have within : index < (cloning.joining group memory numbers).length := by
    rwa [joining, List.length_map]
  rw [Memory.mem_tagsOf distinct, Memory.mem_carrying_grow_of_new reachable.sound
    (Nat.le_add_right _ _), Nat.add_sub_cancel_left, List.getElem?_eq_getElem within]
  simp [tags_of_mem_joining (List.getElem_mem within), tagsFor]

/-! ### Clones in time -/

section InTime

variable (furnished : Furnished cloning group memory)
  (inTime : memory.cloneDelay.alarm.nanoseconds ≤ cloning.cloneTimeout.alarm.nanoseconds)
include furnished inTime

/-- If clones are in time, a number fails, or is taken, or becomes a member. -/
theorem fateIn_inTime (number : Nat) :
    let trial : Trial := ⟨number, cloning.fateIn group number memory⟩
    trial.fate.isTaken = cloning.takenIn group memory number ∧
      trial.fate.isTagged = cloning.freeIn group memory number ∧
      trial.fate.isCloned = cloning.freeIn group memory number ∧
      cloning.report? group trial = cloning.failureIn? group memory number := by
  let name := machineName cloning.cluster group number
  have early := Nat.not_lt.2 inTime
  have fate : cloning.fateIn group number memory = if name ∈ memory.failing then
      .refused (.request ("clone of " ++ name ++ " failed"))
      else if name ∈ memory.machines then
        .refused (.alreadyExists ("the name '" ++ name ++ "' already exists"))
      else .tagged (Memory.machine (memory.machines.length + 1)) := by
    unfold fateIn refusal?
    rw [if_neg (not_not.2 furnished.template), if_neg early, furnished.missing?]
    by_cases fails : name ∈ memory.failing
    · rw [if_pos fails, if_pos fails]
    · by_cases taken : name ∈ memory.machines
      · rw [if_neg fails, if_neg fails, if_pos taken, if_pos taken]
      · rw [if_neg fails, if_neg fails, if_neg taken, if_neg taken]
  simp only [fate, report?, failureIn?, takenIn, freeIn, failsIn]
  by_cases fails : name ∈ memory.failing
  · simp [name, fails, Fate.isTaken, Fate.isTagged, Fate.isCloned, Fate.result]
  · by_cases taken : name ∈ memory.machines
    · simp [name, fails, taken, Fate.isTaken, Fate.isTagged, Fate.isCloned, Fate.result]
    · simp [name, fails, taken, Fate.isTaken, Fate.isTagged, Fate.isCloned, Fate.result]

/-- If clones are in time, those of the foreseen trials count whose numbers remain. -/
theorem counted_inTime (distinct : numbers.Nodup) :
    counted mostCollisions (cloning.foreseen group memory numbers) =
      cloning.foreseen group memory (cloning.remaining group memory numbers) := by
  have kind : (fun number => (cloning.fateIn group number memory).isTaken) =
      cloning.takenIn group memory := funext fun number => (fateIn_inTime furnished inTime number).1
  rw [counted_foreseen distinct, kind, remaining]

/-- If clones are in time, the account lists the failures of the numbers that are not free. -/
theorem tally_inTime (numbers : List Nat) :
    tally cloning group (cloning.foreseen group memory numbers) =
      ⟨numbers.countP (cloning.freeIn group memory),
        numbers.filterMap (cloning.failureIn? group memory)⟩ := by
  have fates := fateIn_inTime furnished inTime
  rw [Account.mk.injEq, tally_created, tally_failures, foreseen, List.countP_map, List.filterMap_map]
  constructor
  · exact List.countP_congr fun number _ => by simp [(fates number).2.1]
  · exact List.filterMap_congr fun number _ => (fates number).2.2.2

/-- If clones are in time, the machines of the free numbers are added, with both tags. -/
theorem additions_inTime (numbers : List Nat) :
    (cloning.foreseen group memory numbers).filterMap (cloning.addition? group memory) =
      cloning.joining group memory numbers := by
  unfold joining
  induction numbers with
  | nil => rfl
  | cons number later inductionHypothesis =>
    have isCloned := (fateIn_inTime furnished inTime number).2.2.1
    unfold foreseen at inductionHypothesis ⊢
    rw [List.map_cons, List.filterMap_cons, List.filter_cons, inductionHypothesis, addition?,
      isCloned, furnished.takeWhile]
    by_cases free : cloning.freeIn group memory number = true
    · rw [if_pos free, if_pos free, List.map_cons]
    · rw [if_neg free, if_neg free]

/-- Numbers go well if none of them fails and the taken ones may be dropped. -/
theorem tagged_inTime_iff :
    (∀ trial ∈ counted mostCollisions (cloning.foreseen group memory numbers),
      trial.fate.isTagged = true) ↔
        (∀ number ∈ numbers, cloning.failsIn group memory number = false) ∧
          numbers.countP (cloning.takenIn group memory) ≤ mostCollisions := by
  have fates := fateIn_inTime furnished inTime
  have few : (cloning.foreseen group memory numbers).countP (·.fate.isTaken) =
      numbers.countP (cloning.takenIn group memory) := by
    rw [foreseen, List.countP_map]
    exact List.countP_congr fun number _ => by simp [(fates number).1]
  have works (number : Nat) : (cloning.freeIn group memory number = true ∨
      cloning.takenIn group memory number = true) ↔ cloning.failsIn group memory number = false := by
    by_cases isName : machineName cloning.cluster group number ∈ memory.machines
    · simp [freeIn, takenIn, isName]
    · simp [freeIn, takenIn, isName]
  rw [counted_allTagged_iff, few, foreseen, List.forall_mem_map]
  simp only [fates, works]

end InTime

/-! ### The account of a call -/

/-- A call whose clones are in time has tried some numbers. -/
structure Windowed (cloning : Cloning) (group : String) (count : Nat) (memory : Memory)
    (numbers : List Nat) (result : Except ProviderError Unit) (after : Memory) : Prop where
  /-- Just so many numbers remain as machines were called for. -/
  enough : (cloning.remaining group memory numbers).length = count
  /-- No shorter beginning would have been enough. -/
  least : ∀ fewer < numbers.length,
    (cloning.remaining group memory (numbers.take fewer)).length < count
  /-- Each number has been tried once. -/
  requests : after.requests = memory.requests ++ numbers.map (cloning.numbered group)
  /-- The machines of the free numbers have been added. -/
  machines : after.machines = memory.machines ++
    (numbers.filter (cloning.freeIn group memory)).map (machineName cloning.cluster group)
  /-- They carry both tags, and no others. -/
  tagged : ∀ index < (numbers.filter (cloning.freeIn group memory)).length, ∀ tag,
    tag ∈ after.tagsOf (Memory.machine (memory.machines.length + index + 1)) ↔
      tag = clusterTag cloning.cluster ∨ tag = groupTag group
  /-- All other machines carry the tags that they carried. -/
  others : ∀ object, memory.Has object → after.tagsOf object = memory.tagsOf object
  /-- The group has grown by as many. -/
  live : after.live cloning.cluster group = memory.live cloning.cluster group +
    (numbers.filter (cloning.freeIn group memory)).length
  /-- The failures are those of the other numbers that remain, in order. -/
  account : result = Account.result count
    ⟨(numbers.filter (cloning.freeIn group memory)).length,
      (cloning.remaining group memory numbers).filterMap (cloning.failureIn? group memory)⟩
  /-- All is well if no clone was made to fail and all taken names could be dropped. -/
  clean : result = .ok () ↔ (∀ number ∈ numbers, cloning.failsIn group memory number = false) ∧
    numbers.countP (cloning.takenIn group memory) ≤ mostCollisions

/-- A call whose clones are late has made no machine, and each machine that was called for is a
failure. -/
structure Belated (cloning : Cloning) (group : String) (count : Nat) (memory : Memory)
    (numbers : List Nat) (result : Except ProviderError Unit) (after : Memory) : Prop where
  /-- As many numbers have been tried as machines were called for. -/
  length : numbers.length = count
  /-- Only the requests are noted. -/
  unchanged : after = { memory with requests := memory.requests ++ numbers.map (cloning.numbered group) }
  /-- Each number is a failure. -/
  account : result = Account.result count
    ⟨0, numbers.map fun number => line cloning group number (.timeout cloning.cloneTimeout)⟩

/-- If clones are in time, foreseen trials that are enough make the window. -/
theorem windowed_of_enough (reachable : memory.Reachable)
    (furnished : Furnished cloning group memory)
    (inTime : memory.cloneDelay.alarm.nanoseconds ≤ cloning.cloneTimeout.alarm.nanoseconds)
    (distinct : numbers.Nodup)
    (enough : Enough mostCollisions count (cloning.foreseen group memory numbers)) :
    Windowed cloning group count memory numbers
      ((tally cloning group (counted mostCollisions (cloning.foreseen group memory numbers))).result
        count)
      (cloning.afterTrials group (cloning.foreseen group memory numbers) memory) := by
  have requests : ((cloning.foreseen group memory numbers).map fun trial =>
      cloning.numbered group trial.number) = numbers.map (cloning.numbered group) := by
    rw [foreseen, List.map_map]
    rfl
  rw [afterTrials, additions_inTime furnished inTime, requests]
  constructor
  case enough =>
    have length := enough.1
    rw [counted_inTime furnished inTime distinct, foreseen, List.length_map] at length
    exact length
  case least =>
    intro fewer isFewer
    have short := enough.2 fewer (by rwa [foreseen, List.length_map])
    rw [foreseen, ← List.map_take, ← foreseen, counted_inTime furnished inTime
      (distinct.sublist (List.take_sublist _ _)), foreseen, List.length_map] at short
    exact short
  case requests => exact Memory.grow_requests
  case machines =>
    rw [Memory.grow_machines, joining, List.map_map]
    rfl
  case tagged =>
    intro index inside tag
    exact mem_tagsOf_joining reachable furnished _ inside tag
  case others =>
    intro object has
    exact Memory.tagsOf_grow_of_has reachable.distinct has (tagNames_joining furnished _)
  case live => rw [live_grow reachable.sound, countP_joining]
  case account =>
    rw [counted_inTime furnished inTime distinct, tally_inTime furnished inTime, countP_remaining]
  case clean => rw [result_tally_eq_ok_iff, tagged_inTime_iff furnished inTime]

/-- If clones are late, foreseen trials that are enough are failures. -/
theorem belated_of_enough (furnished : Furnished cloning group memory)
    (late : cloning.cloneTimeout.alarm.nanoseconds < memory.cloneDelay.alarm.nanoseconds)
    (enough : Enough mostCollisions count (cloning.foreseen group memory numbers)) :
    Belated cloning group count memory numbers
      ((tally cloning group (counted mostCollisions (cloning.foreseen group memory numbers))).result
        count)
      (cloning.afterTrials group (cloning.foreseen group memory numbers) memory) := by
  have fates : cloning.foreseen group memory numbers = numbers.map fun number =>
      ⟨number, .refused (.timeout cloning.cloneTimeout)⟩ := by
    apply List.map_congr_left
    intro number _
    rw [fateIn_late furnished late]
  rw [fates] at enough ⊢
  have none : (numbers.map fun number => (⟨number, .refused (.timeout cloning.cloneTimeout)⟩ :
      Trial)).countP (·.fate.isTaken) = 0 := by
    rw [List.countP_map, List.countP_eq_zero]
    simp [Fate.isTaken, Fate.result]
  have all : counted mostCollisions (numbers.map fun number =>
      (⟨number, .refused (.timeout cloning.cloneTimeout)⟩ : Trial)) = numbers.map fun number =>
        ⟨number, .refused (.timeout cloning.cloneTimeout)⟩ := by
    rw [counted_eq_filter (by omega), List.filter_eq_self]
    simp [Fate.isTaken, Fate.result]
  constructor
  case length =>
    have length := enough.1
    rwa [all, List.length_map] at length
  case unchanged =>
    rw [afterTrials, List.filterMap_map, List.map_map]
    have noAddition : numbers.filterMap (cloning.addition? group memory ∘ fun number =>
        ⟨number, .refused (.timeout cloning.cloneTimeout)⟩) = [] := by
      simp [addition?, Fate.isCloned]
    rw [noAddition]
    simp [Memory.grow, Memory.giveAll, Function.comp_def]
  case account =>
    congr 1
    rw [all, Account.mk.injEq, tally_created, tally_failures, List.countP_map, List.filterMap_map]
    constructor
    · simp [Fate.isTagged]
    · simp [report?, Fate.result, Function.comp_def]

/-- **A call for machines, as the inventory foresees it.** In an inventory in memory that nobody else
changes, and that has the template and both tags, a call for machines tries the numbers from the next
one of the group on. If clones are in time, it tries the fewest numbers of which enough remain, and
exactly the free ones become members; if they are late, no machine is made.

Clones that take no longer than they may are in time, and clones that take longer by a millisecond
are late, but for the thirty years after which every timer goes off. What is longer by less is rounded
up to the same millisecond or not: both timers are set together, at a whole millisecond. -/
theorem create_windowed (cloning : Cloning) (group : String) (count : UInt32)
    (reachable : memory.Reachable) (furnished : Furnished cloning group memory) :
    ∃ length result after,
      let first := cloning.firstNumber group memory
      let numbers := numbersFrom first length
      (cloning.create Memory.client group count.toNat).run.Gives Memory.answer memory result after ∧
      (first + length ≤ Nat.pow 2 64 → numbers = List.range' first length) ∧
      (Punctual cloning memory →
        Windowed cloning group count.toNat memory numbers result after) ∧
      (¬Punctual cloning memory →
        Belated cloning group count.toNat memory numbers result after) ∧
      (memory.cloneDelay.nanoseconds ≤ cloning.cloneTimeout.nanoseconds ∨
          Duration.longestWait.nanoseconds ≤ cloning.cloneTimeout.nanoseconds →
        Punctual cloning memory) ∧
      (cloning.cloneTimeout.nanoseconds + 1000000 ≤ memory.cloneDelay.nanoseconds →
          cloning.cloneTimeout.nanoseconds + 1000000 ≤ Duration.longestWait.nanoseconds →
        ¬Punctual cloning memory) := by
  have small : count.toNat < Nat.pow 2 32 := count.toNat_lt
  have large : Nat.pow 2 32 + mostCollisions ≤ Nat.pow 2 64 := by decide
  obtain ⟨length, distinct, gives, enough⟩ :=
    create_foreseen cloning group count.toNat reachable.sound (by omega)
  refine ⟨length, _, _, gives, numbersFrom_eq_range', ?_, ?_, punctual_of_le, not_punctual_of_lt⟩
  · intro punctual
    exact windowed_of_enough reachable furnished (alarm_le_alarm_iff.2 punctual) distinct enough
  · intro late
    rw [← alarm_le_alarm_iff, Nat.not_le] at late
    exact belated_of_enough furnished late enough

/-- An inventory with a worker, a machine that bears the name of a worker and is none, and a name that
no clone can be given. -/
def littered : Memory :=
  let memory := Memory.empty.addTemplate "template"
  let memory := (memory.addMachine "prod-workers-1" [clusterTag "prod", groupTag "workers"]).2
  let memory := (memory.addMachine "prod-workers-2" []).2
  memory.failCloneOf "prod-workers-4"

/-- Three workers are called for. The second number is dropped, the third and the fifth one become
members, and the fourth one is a failure. -/
theorem littered_windowed :
    let cloning : Cloning := ⟨"prod", "template", "", "", .seconds 600⟩
    let run := (cloning.create Memory.client "workers" 3).run.run Memory.answer littered
    let result : Except ProviderError Unit := .error (.partialProvisioning 3 2
      ["prod-workers-4: request failed: clone of prod-workers-4 failed"])
    run.value = some result ∧
      run.state.machines =
        ["prod-workers-1", "prod-workers-2", "prod-workers-3", "prod-workers-5"] ∧
      ∃ length, Windowed cloning "workers" 3 littered (numbersFrom 2 length) result run.state := by
  intro cloning run result
  have reachable : littered.Reachable :=
    (((Relation.ReflTransGen.refl.tail (.addTemplate _ _)).tail (.addMachine _ _ _)).tail
      (.addMachine _ _ _)).tail (.failCloneOf _ _)
  have furnished : Furnished cloning "workers" littered :=
    ⟨by decide +kernel, by decide +kernel, by decide +kernel⟩
  have ends : run.value = some result := by decide +kernel
  have first : cloning.firstNumber "workers" littered = 2 := by decide +kernel
  obtain ⟨length, other, after, gives, -, windowed, -, early, -⟩ :=
    create_windowed cloning "workers" 3 reachable furnished
  obtain ⟨rfl, rfl⟩ := gives.unique ⟨ends, rfl⟩
  refine ⟨ends, by decide +kernel, length, ?_⟩
  rw [← first]
  exact windowed (early (.inl (by decide)))

/-- An inventory without machines, in which a clone would take three centuries. -/
def unhurried : Memory :=
  let memory := Memory.empty.addTemplate "tmpl"
  let memory := (memory.createTag (clusterTag "prod")).createTag (groupTag "pool-a")
  memory.setCloneDelay (.milliseconds 10000000000000)

/-- A clone that takes longer than it may is there in time, if it may take more than thirty years. -/
theorem unhurried_created :
    let cloning : Cloning := ⟨"prod", "tmpl", "", "", .milliseconds 1000000000000⟩
    let run := (cloning.create Memory.client "pool-a" 1).run.run Memory.answer unhurried
    unhurried.Reachable ∧ Furnished cloning "pool-a" unhurried ∧
      cloning.cloneTimeout.nanoseconds < unhurried.cloneDelay.nanoseconds ∧
      run.value = some (.ok ()) ∧ run.state.machines = ["prod-pool-a-1"] := by
  intro cloning run
  have reachable : unhurried.Reachable :=
    (((Relation.ReflTransGen.refl.tail (.addTemplate _ _)).tail (.createTag _ _)).tail
      (.createTag _ _)).tail (.setCloneDelay _ _)
  have furnished : Furnished cloning "pool-a" unhurried :=
    ⟨by decide +kernel, by decide +kernel, by decide +kernel⟩
  exact ⟨reachable, furnished, by decide, by decide +kernel, by decide +kernel⟩

end NodeScaler.Cloning
