import Mathlib.Data.List.TakeWhile
import NodeScaler.Proofs.Plan.Giving
import NodeScaler.Proofs.Provider.Numbering

/-!
# What becomes of trials in an inventory in memory

When nobody else changes an inventory in memory, what becomes of a trial is seen in the inventory:
a clone is refused if there is no template, if it takes too long, if it is meant to fail, or if its
name is taken, in this order; and a machine gets the tags of its group up to the first one that
does not exist. So the trials of a call, and the inventory after them, are determined by the first
number and by how many they are, and as many are made as are needed for the machines asked for.
-/

namespace NodeScaler

/-- There is a tag. -/
def Memory.hasTag (memory : Memory) (tag : String) : Bool := (memory.carriers? tag).isSome

/-- Growing by machines with tags that there are creates none. -/
theorem Memory.hasTag_grow {memory : Memory} {additions : List Addition}
    (exist : ∀ addition ∈ additions, ∀ tag ∈ addition.tags, memory.hasTag tag = true)
    (requests : List CloneRequest) (tag : String) :
    (memory.grow additions requests).hasTag tag = memory.hasTag tag := by
  rw [Bool.eq_iff_iff, hasTag, hasTag, carriers?_isSome_iff, carriers?_isSome_iff,
    grow_tagNames exist]

namespace Cloning

open Plan (Gives gives_ask gives_done)

/-! ## One trial -/

/-- The failure of a clone of a name, unless there is a new machine. -/
def refusal? (cloning : Cloning) (name : String) (memory : Memory) : Option InventoryError :=
  if cloning.template ∉ memory.templates then
    some (.notFound ("template " ++ cloning.template))
  else if cloning.cloneTimeout.alarm.nanoseconds < memory.cloneDelay.alarm.nanoseconds then
    some (.timeout cloning.cloneTimeout)
  else if name ∈ memory.failing then some (.request ("clone of " ++ name ++ " failed"))
  else if name ∈ memory.machines then
    some (.alreadyExists ("the name '" ++ name ++ "' already exists"))
  else none

/-- The failure of attaching tags, unless there are all of them. -/
def missing? (tags : List String) (memory : Memory) : Option InventoryError :=
  (tags.find? fun tag => !memory.hasTag tag).map fun tag => .notFound ("tag " ++ tag)

/-- A clone within the time for clones. -/
def cloneInTime {I : Interface} (cloning : Cloning) (client : InventoryClient I) (name : String) :
    Attempt I InventoryError ObjectRef :=
  (client.clone (cloning.request name)).within cloning.cloneTimeout (.timeout cloning.cloneTimeout)

variable {cloning : Cloning} {group name : String} {memory : Memory}

/-- A clone for which there is a template takes its time and is then answered. -/
theorem cloneInTime_gives (cloning : Cloning) (name : String)
    (isTemplate : cloning.template ∈ memory.templates) :
    let outcome := Memory.answer (.finishClone (cloning.request name))
      (memory.grow [] [cloning.request name])
    (memory.cloneDelay.alarm.nanoseconds ≤ cloning.cloneTimeout.alarm.nanoseconds →
      (cloning.cloneInTime Memory.client name).run.Gives Memory.answer memory outcome.1 outcome.2) ∧
    (cloning.cloneTimeout.alarm.nanoseconds < memory.cloneDelay.alarm.nanoseconds →
      (cloning.cloneInTime Memory.client name).run.Gives Memory.answer memory
        (.error (.timeout cloning.cloneTimeout)) (memory.grow [] [cloning.request name])) := by
  intro outcome
  have begins : Memory.answer (.beginClone (cloning.request name)) memory =
      (.ok memory.cloneDelay, memory.grow [] [cloning.request name]) := by
    rw [← Memory.note_eq_grow]
    exact if_pos isTemplate
  let limit := cloning.cloneTimeout.alarm
  let late : Except InventoryError ObjectRef := .error (.timeout cloning.cloneTimeout)
  let rest (delay : Duration) : Attempt Memory.interface InventoryError ObjectRef := do
    Attempt.sleep delay
    Attempt.question (.finishClone (cloning.request name)) id
  have whole : (cloning.cloneInTime Memory.client name).run =
      Plan.ask (I := Memory.interface) (.beginClone (cloning.request name)) fun answer =>
        (Option.getD · late) <$> Plan.within limit (ExceptT.bindCont rest answer) := rfl
  rw [whole]
  constructor
  · intro inTime
    apply gives_ask
    rw [begins]
    have heard : ((rest memory.cloneDelay).run.within limit).Gives Memory.answer
        (memory.grow [] [cloning.request name]) (some outcome.1) outcome.2 :=
      Plan.gives_within_pause Memory.answer (.finishClone (cloning.request name)) id _
        (by rwa [Duration.waited_alarm])
    exact heard.map (Option.getD · late)
  · intro tooLate
    apply gives_ask
    rw [begins]
    have dropped : ((rest memory.cloneDelay).run.within limit).Gives Memory.answer
        (memory.grow [] [cloning.request name]) none (memory.grow [] [cloning.request name]) :=
      Plan.gives_within_pause_late Memory.answer (.finishClone (cloning.request name)) id
        _ (by rwa [Duration.waited_alarm])
    exact dropped.map (Option.getD · late)

/-- A clone that is refused leaves nothing but its request. -/
theorem clone_refused {error : InventoryError} (refused : cloning.refusal? name memory = some error) :
    (cloning.cloneInTime Memory.client name).run.Gives Memory.answer memory (.error error)
      (memory.grow [] [cloning.request name]) := by
  unfold refusal? at refused
  split at refused
  · next noTemplate =>
    cases refused
    have begins : Memory.answer (.beginClone (cloning.request name)) memory =
        (.error (.notFound ("template " ++ cloning.template)),
          memory.grow [] [cloning.request name]) := by
      rw [← Memory.note_eq_grow]
      exact if_neg noTemplate
    apply gives_ask (I := Memory.interface)
    rw [begins]
    exact gives_done _ _
  · next isTemplate =>
    obtain ⟨inTime, tooLate⟩ := cloneInTime_gives cloning name (not_not.1 isTemplate)
    split at refused
    · next late =>
      cases refused
      exact tooLate late
    · next early =>
      have heard := inTime (Nat.not_lt.1 early)
      split at refused
      · next fails =>
        cases refused
        simpa [Memory.answer, request, fails] using heard
      · next works =>
        split at refused
        · next taken =>
          cases refused
          simpa [Memory.answer, request, works, taken] using heard
        · cases refused

/-- A clone that is not refused is a machine without tags, under the next number. -/
theorem clone_made (made : cloning.refusal? name memory = none) :
    (cloning.cloneInTime Memory.client name).run.Gives Memory.answer memory
      (.ok (Memory.machine (memory.machines.length + 1)))
      (memory.grow [⟨name, []⟩] [cloning.request name]) := by
  unfold refusal? at made
  split at made
  · cases made
  · next isTemplate =>
    split at made
    · cases made
    · next early =>
      have heard := (cloneInTime_gives cloning name (not_not.1 isTemplate)).1 (Nat.not_lt.1 early)
      split at made
      · cases made
      · next works =>
        split at made
        · cases made
        · next free =>
          have allocated : ((memory.grow [] [cloning.request name]).allocate name).2 =
              memory.grow [⟨name, []⟩] [cloning.request name] := by
            rw [Memory.allocate_eq_grow, Memory.grow_grow]
            rfl
          have finished : Memory.answer (.finishClone (cloning.request name))
              (memory.grow [] [cloning.request name]) =
                (.ok (Memory.machine (memory.machines.length + 1)),
                  memory.grow [⟨name, []⟩] [cloning.request name]) := by
            rw [← allocated]
            simp [Memory.answer, request, works, free, Memory.allocate]
          rw [finished] at heard
          exact heard

/-- Attaching a tag to a machine that has just been made. -/
theorem attach_gives (name : String) {given : List String} (requests : List CloneRequest)
    (exist : ∀ tag ∈ given, memory.hasTag tag = true) (tag : String) :
    let object := Memory.machine (memory.machines.length + 1)
    let before := memory.grow [⟨name, given⟩] requests
    (memory.hasTag tag = true → (Memory.client.attach tag object).run.Gives Memory.answer before
      (.ok ()) (memory.grow [⟨name, given ++ [tag]⟩] requests)) ∧
    (memory.hasTag tag = false → (Memory.client.attach tag object).run.Gives Memory.answer before
      (.error (.notFound ("tag " ++ tag))) before) := by
  intro object before
  have found : (before.find? object).isSome = true :=
    Memory.find?_isSome_iff.2 ⟨memory.machines.length, by simp [before], rfl⟩
  have isThere : ¬(before.find? object).isNone = true := by simp [← Option.not_isSome, found]
  have sameTags : (before.carriers? tag).isSome = memory.hasTag tag :=
    Memory.hasTag_grow (by simpa using exist) requests tag
  have whole : (Memory.client.attach tag object).run =
      Plan.ask (I := Memory.interface) (.attach tag object) .done := rfl
  rw [whole]
  constructor
  · intro hasTag
    have answered : Memory.answer (.attach tag object) before =
        (.ok (), memory.grow [⟨name, given ++ [tag]⟩] requests) := by
      rw [← Memory.putTag_grow, Memory.answer, if_neg isThere, if_neg]
      simp [← Option.not_isSome, sameTags, hasTag]
    apply gives_ask
    rw [answered]
    exact gives_done _ _
  · intro noTag
    have answered : Memory.answer (.attach tag object) before =
        (.error (.notFound ("tag " ++ tag)), before) := by
      rw [Memory.answer, if_neg isThere, if_pos]
      simp [← Option.not_isSome, sameTags, noTag]
    apply gives_ask
    rw [answered]
    exact gives_done _ _

/-- Attaching tags to a machine that has just been made: it gets those before the first one that
does not exist. -/
theorem tag_gives (name : String) {given : List String} (requests : List CloneRequest)
    (exist : ∀ tag ∈ given, memory.hasTag tag = true) (tags : List String) :
    (tag Memory.client (Memory.machine (memory.machines.length + 1)) tags).run.Gives Memory.answer
      (memory.grow [⟨name, given⟩] requests)
      ((missing? tags memory).elim (.ok ()) .error)
      (memory.grow [⟨name, given ++ tags.takeWhile memory.hasTag⟩] requests) := by
  induction tags generalizing given with
  | nil =>
    rw [List.takeWhile_nil, List.append_nil]
    exact gives_done _ _
  | cons first rest inductionHypothesis =>
    obtain ⟨attached, refused⟩ := attach_gives name requests exist first
    cases hasFirst : memory.hasTag first with
    | true =>
      have existToo : ∀ tag ∈ given ++ [first], memory.hasTag tag = true :=
        List.forall_mem_append.2 ⟨exist, List.forall_mem_singleton.2 hasFirst⟩
      have others := inductionHypothesis existToo
      rw [List.append_assoc, List.singleton_append] at others
      rw [missing?, List.find?_cons_of_neg (by simp [hasFirst]), List.takeWhile_cons_of_pos hasFirst]
      exact (attached hasFirst).attempt others
    | false =>
      rw [missing?, List.find?_cons_of_pos (by simp [hasFirst]),
        List.takeWhile_cons_of_neg (by simp [hasFirst]), List.append_nil]
      exact (refused hasFirst).attemptError

/-- The tags of the machines of a group. -/
def tagsFor (cloning : Cloning) (group : String) : List String :=
  [clusterTag cloning.cluster, groupTag group]

/-- What becomes of the trial of a number. -/
def fateIn (cloning : Cloning) (group : String) (number : Nat) (memory : Memory) : Fate :=
  match cloning.refusal? (machineName cloning.cluster group number) memory with
  | some error => .refused error
  | none =>
    match missing? (cloning.tagsFor group) memory with
    | some error => .stranded (Memory.machine (memory.machines.length + 1)) error
    | none => .tagged (Memory.machine (memory.machines.length + 1))

/-- The machine that a trial adds to an inventory, if it does. -/
def addition? (cloning : Cloning) (group : String) (memory : Memory) (trial : Trial) :
    Option Addition :=
  if trial.fate.isCloned then
    some ⟨machineName cloning.cluster group trial.number,
      (cloning.tagsFor group).takeWhile memory.hasTag⟩
  else none

/-- The inventory after trials. -/
def afterTrials (cloning : Cloning) (group : String) (trials : List Trial) (memory : Memory) :
    Memory :=
  memory.grow (trials.filterMap (cloning.addition? group memory))
    (trials.map fun trial => cloning.numbered group trial.number)

/-- Making a machine is the trial of its number. -/
theorem make_gives (cloning : Cloning) (group : String) (number : Nat) (memory : Memory) :
    (cloning.make Memory.client group (machineName cloning.cluster group number)).run.Gives
      Memory.answer memory (cloning.fateIn group number memory).result
      (cloning.afterTrials group [⟨number, cloning.fateIn group number memory⟩] memory) := by
  unfold fateIn
  cases refused : cloning.refusal? (machineName cloning.cluster group number) memory with
  | some error => exact (clone_refused refused).attemptError
  | none =>
    have none : ∀ tag ∈ ([] : List String), memory.hasTag tag = true := List.forall_mem_nil _
    have tags := tag_gives (machineName cloning.cluster group number)
      [cloning.numbered group number] none (cloning.tagsFor group)
    have whole : (cloning.make Memory.client group
        (machineName cloning.cluster group number)).run.Gives Memory.answer memory
          ((missing? (cloning.tagsFor group) memory).elim (.ok ()) .error)
          (memory.grow [⟨machineName cloning.cluster group number,
            (cloning.tagsFor group).takeWhile memory.hasTag⟩] [cloning.numbered group number]) :=
      Plan.Gives.attempt (clone_made refused) tags
    cases missed : missing? (cloning.tagsFor group) memory with
    | some error =>
      rw [missed] at whole
      exact whole
    | none =>
      rw [missed] at whole
      exact whole

/-- The machines are of a group: they bear its names, and of its tags only such as there are. -/
def Own (cloning : Cloning) (group : String) (memory : Memory) (additions : List Addition) : Prop :=
  ∀ addition ∈ additions, (∃ number, addition.name = machineName cloning.cluster group number) ∧
    ∀ tag ∈ addition.tags, tag ∈ cloning.tagsFor group ∧ memory.hasTag tag = true

/-- No machine is of another group. -/
theorem own_nil : Own cloning group memory [] := List.forall_mem_nil _

/-- Adding machines of a group creates no tag. -/
theorem Own.hasTag_grow {additions : List Addition} (own : Own cloning group memory additions)
    (requests : List CloneRequest) : (memory.grow additions requests).hasTag = memory.hasTag :=
  funext fun tag => Memory.hasTag_grow
    (fun addition isAddition tag isGiven => ((own addition isAddition).2 tag isGiven).2) requests tag

/-- Machines of a group that are added later are of the group like those before them. -/
theorem Own.append {additions more : List Addition} {requests : List CloneRequest}
    (own : Own cloning group memory additions)
    (ownLater : Own cloning group (memory.grow additions requests) more) :
    Own cloning group memory (additions ++ more) := by
  unfold Own at ownLater
  rw [own.hasTag_grow] at ownLater
  exact List.forall_mem_append.2 ⟨own, ownLater⟩

/-- Machines of a group join no other group. -/
theorem Own.only_joins {additions : List Addition} (own : Own cloning group memory additions)
    {addition : Addition} (isAddition : addition ∈ additions) {otherCluster otherGroup : String}
    (joins : addition.joins otherCluster otherGroup = true) :
    (otherCluster, otherGroup) = (cloning.cluster, group) := by
  obtain ⟨inCluster, inGroup⟩ := Addition.joins_iff.1 joins
  have ofGroup (tag : String) (isGiven : tag ∈ addition.tags) :
      tag = clusterTag cloning.cluster ∨ tag = groupTag group := by
    simpa [tagsFor] using ((own addition isAddition).2 tag isGiven).1
  rcases ofGroup _ inCluster with sameCluster | isGroup
  · rcases ofGroup _ inGroup with isCluster | sameGroup
    · exact absurd isCluster.symm (clusterTag_ne_groupTag _ _)
    · rw [clusterTag_injective sameCluster, groupTag_injective sameGroup]
  · exact absurd isGroup (clusterTag_ne_groupTag _ _)

/-- The machines of trials are of their group. -/
theorem own_additions (trials : List Trial) :
    Own cloning group memory (trials.filterMap (cloning.addition? group memory)) := by
  intro addition isAddition
  obtain ⟨trial, -, adds⟩ := List.mem_filterMap.1 isAddition
  unfold addition? at adds
  split at adds
  · cases adds
    exact ⟨⟨trial.number, rfl⟩, fun tag isGiven =>
      ⟨List.takeWhile_subset _ isGiven, List.mem_takeWhile_imp isGiven⟩⟩
  · cases adds

/-- After trials there are the same tags. -/
theorem hasTag_afterTrials (trials : List Trial) :
    (cloning.afterTrials group trials memory).hasTag = memory.hasTag :=
  (own_additions trials).hasTag_grow _

/-- Trials may be made in parts. -/
theorem afterTrials_append (trials later : List Trial) :
    cloning.afterTrials group (trials ++ later) memory =
      cloning.afterTrials group later (cloning.afterTrials group trials memory) := by
  have same : cloning.addition? group (cloning.afterTrials group trials memory) =
      cloning.addition? group memory := by
    funext trial
    rw [addition?, addition?, hasTag_afterTrials]
  rw [afterTrials, List.filterMap_append, List.map_append, ← Memory.grow_grow]
  unfold afterTrials at same ⊢
  rw [same]

/-- The first trial is made before the others. -/
theorem afterTrials_cons (trial : Trial) (later : List Trial) :
    cloning.afterTrials group (trial :: later) memory =
      cloning.afterTrials group later (cloning.afterTrials group [trial] memory) :=
  afterTrials_append [trial] later

/-- Without trials nothing changes. -/
@[simp] theorem afterTrials_nil : cloning.afterTrials group [] memory = memory :=
  Memory.grow_nil memory

/-! ## Several trials -/

/-- The trials of numbers that are counted on. -/
def trialsIn (cloning : Cloning) (group : String) : Nat → Nat → Memory → List Trial
  | 0, _, _ => []
  | length + 1, number, memory =>
    let trial : Trial := ⟨number, cloning.fateIn group number memory⟩
    trial :: cloning.trialsIn group length (following number) (cloning.afterTrials group [trial] memory)

/-- There are as many trials as are made. -/
@[simp] theorem length_trialsIn (cloning : Cloning) (group : String) (length number : Nat)
    (memory : Memory) :
    (cloning.trialsIn group length number memory).length = length := by
  induction length generalizing number memory with
  | zero => rfl
  | succ length inductionHypothesis => rw [trialsIn, List.length_cons, inductionHypothesis]

/-- The trials bear numbers that are counted on. -/
theorem numbers_trialsIn (cloning : Cloning) (group : String) (length number : Nat)
    (memory : Memory) :
    (cloning.trialsIn group length number memory).map (·.number) = numbersFrom number length := by
  induction length generalizing number memory with
  | zero => rfl
  | succ length inductionHypothesis =>
    rw [trialsIn, List.map_cons, inductionHypothesis, numbersFrom_succ]

/-- Later trials are made in the inventory that the earlier ones leave. -/
theorem trialsIn_add (length more number : Nat) (memory : Memory) :
    cloning.trialsIn group (length + more) number memory =
      cloning.trialsIn group length number memory ++
        cloning.trialsIn group more (following^[length] number)
          (cloning.afterTrials group (cloning.trialsIn group length number memory) memory) := by
  induction length generalizing number memory with
  | zero => simp [trialsIn]
  | succ length inductionHypothesis =>
    rw [Nat.add_right_comm, trialsIn, inductionHypothesis, trialsIn, afterTrials_cons _
      (cloning.trialsIn _ _ _ _), Function.iterate_succ_apply]
    rfl

/-! ## As many trials as are needed -/

/-- How many trials are needed is determined by the first number and the inventory. -/
theorem Enough.unique {collisions count length other number : Nat}
    (enough : Enough collisions count (cloning.trialsIn group length number memory))
    (enoughToo : Enough collisions count (cloning.trialsIn group other number memory)) :
    length = other := by
  have notLess {fewer more : Nat}
      (first : Enough collisions count (cloning.trialsIn group fewer number memory))
      (second : Enough collisions count (cloning.trialsIn group more number memory)) :
      ¬fewer < more := by
    intro less
    obtain ⟨rest, rfl⟩ := Nat.exists_eq_add_of_lt less
    have short := second.2 fewer (by rwa [length_trialsIn])
    rw [Nat.add_assoc, trialsIn_add, List.take_left' (length_trialsIn _ _ _ _ _), first.1] at short
    exact Nat.lt_irrefl _ short
  exact Nat.le_antisymm (Nat.not_lt.1 (notLess enoughToo enough))
    (Nat.not_lt.1 (notLess enough enoughToo))

/-- Making machines: there are as many trials as are needed, and the account says what comes of
them. -/
theorem makeAll_gives (cloning : Cloning) (group : String) (count collisions number : Nat)
    (memory : Memory) :
    ∃ length, let trials := cloning.trialsIn group length number memory
      (cloning.makeAll Memory.client group count collisions number).Gives Memory.answer memory
        (tally cloning group (counted collisions trials)) (cloning.afterTrials group trials memory) ∧
      Enough collisions count trials := by
  let reaches (number : Nat) (memory : Memory)
      (entries : List (Trial × List (Exchange Memory.interface))) (last : Memory) : Prop :=
    Tries cloning Memory.client group Memory.answer number memory entries last ∧
      entries.map Prod.fst = cloning.trialsIn group entries.length number memory ∧
        last = cloning.afterTrials group (entries.map Prod.fst) memory
  have one (number : Nat) (memory : Memory) : ∃ own, ∃ fate : Fate, ∃ middle, ∀ {later last},
      reaches (following number) middle later last →
        reaches number memory ((⟨number, fate⟩, own) :: later) last := by
    let trial : Trial := ⟨number, cloning.fateIn group number memory⟩
    obtain ⟨own, made⟩ := (make_gives cloning group number memory).exists_transcript
    refine ⟨own, trial.fate, cloning.afterTrials group [trial] memory, ?_⟩
    rintro later last ⟨others, rest, isLast⟩
    refine ⟨.cons made others, ?_, ?_⟩
    · rw [List.map_cons, rest]
      rfl
    · rw [isLast, List.map_cons, ← afterTrials_cons]
  obtain ⟨entries, last, ⟨tries, isTrials, rfl⟩, enough⟩ := exists_enough reaches
    (fun number memory => ⟨.nil number memory, rfl, afterTrials_nil.symm⟩) one count collisions
    number memory
  have gives := Plan.gives_of_transcript (tries.makeAll enough)
  rw [isTrials] at gives enough
  exact ⟨entries.length, gives, enough⟩

end Cloning

end NodeScaler
