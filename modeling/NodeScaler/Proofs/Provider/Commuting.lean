import NodeScaler.Proofs.Inventory.Renumbering
import NodeScaler.Proofs.Provider.Outcomes

/-!
# Resizes of different groups commute

What a resize of a group does is decided by what the group sees of the inventory: templates, clones
that fail, tags, the names that its machines could bear, and its members. The machines of another
group never have such a name and never carry the tag of this group, so a resize of the other group
changes nothing of it. Two resizes of different groups therefore end the same way in either order,
and leave the same targets and the same inventory but for the numbers of the new machines.
-/

namespace NodeScaler

open Plan (Gives)

namespace Cloning

variable {cloning : Cloning} {group : String} {memory other : Memory} {collisions count : Nat}

/-! ## Trials in inventories that look alike -/

/-- Trials of one number that end the same way, though their machines may have different numbers. -/
structure Trial.Like (trial other : Trial) : Prop where
  /-- They have the same number. -/
  number : trial.number = other.number
  /-- There is a machine in both or in neither. -/
  isCloned : trial.fate.isCloned = other.fate.isCloned
  /-- They have the same result. -/
  result : trial.fate.result = other.fate.result

/-- Of trials that end the same way the same count. -/
theorem counted_like {trials others : List Trial} (like : List.Forall₂ Trial.Like trials others) :
    List.Forall₂ Trial.Like (counted collisions trials) (counted collisions others) := by
  induction like generalizing collisions with
  | nil =>
    rw [counted_nil]
    exact .nil
  | cons first rest inductionHypothesis =>
    cases collisions with
    | zero => exact .cons first rest
    | succ collisions =>
      rw [counted, counted, Fate.isTaken, Fate.isTaken, first.result]
      split
      · exact inductionHypothesis
      · exact .cons first inductionHypothesis

/-- Trials that end the same way come to the same. -/
theorem tally_like {trials others : List Trial} (like : List.Forall₂ Trial.Like trials others) :
    tally cloning group trials = tally cloning group others := by
  induction like with
  | nil => rfl
  | cons first rest inductionHypothesis =>
    rw [tally, tally, inductionHypothesis, first.number, first.result]

/-- Trials that end the same way are enough together. -/
theorem Enough.like {trials others : List Trial} (enough : Enough collisions count trials)
    (like : List.Forall₂ Trial.Like trials others) : Enough collisions count others := by
  refine ⟨(counted_like like).length_eq ▸ enough.1, fun fewer isFewer => ?_⟩
  rw [← like.length_eq] at isFewer
  rw [← (counted_like (List.forall₂_take fewer like)).length_eq]
  exact enough.2 fewer isFewer

/-- Trials of a group find the same in both inventories. -/
structure SameTrials (cloning : Cloning) (group : String) (memory other : Memory) : Prop where
  /-- There are the same templates. -/
  templates : other.templates = memory.templates
  /-- The same clones fail. -/
  failing : other.failing = memory.failing
  /-- Clones take the same time. -/
  cloneDelay : other.cloneDelay = memory.cloneDelay
  /-- There are the same tags. -/
  hasTag : other.hasTag = memory.hasTag
  /-- The same names of the group are taken. -/
  names (number : Nat) : machineName cloning.cluster group number ∈ other.machines ↔
    machineName cloning.cluster group number ∈ memory.machines

/-- The same clones are refused. -/
theorem SameTrials.refusal? (alike : SameTrials cloning group memory other) (number : Nat) :
    cloning.refusal? (machineName cloning.cluster group number) other =
      cloning.refusal? (machineName cloning.cluster group number) memory := by
  simp only [Cloning.refusal?, alike.templates, alike.failing, alike.cloneDelay, alike.names]

/-- The trial of a number ends the same way. -/
theorem SameTrials.fateIn (alike : SameTrials cloning group memory other) (number : Nat) :
    Trial.Like ⟨number, cloning.fateIn group number memory⟩
      ⟨number, cloning.fateIn group number other⟩ := by
  have missed : missing? (cloning.tagsFor group) other = missing? (cloning.tagsFor group) memory := by
    rw [missing?, missing?, alike.hasTag]
  unfold Cloning.fateIn
  rw [alike.refusal?, missed]
  split
  · exact ⟨rfl, rfl, rfl⟩
  · split <;> exact ⟨rfl, rfl, rfl⟩

/-- Trials that end the same way add the same machine, or none. -/
theorem SameTrials.addition? (alike : SameTrials cloning group memory other) {trial another : Trial}
    (like : trial.Like another) :
    cloning.addition? group other another = cloning.addition? group memory trial := by
  rw [Cloning.addition?, Cloning.addition?, ← like.isCloned, ← like.number, alike.hasTag]

/-- Trials that end the same way add the same machines. -/
theorem SameTrials.additions (alike : SameTrials cloning group memory other) {trials others : List Trial}
    (like : List.Forall₂ Trial.Like trials others) :
    others.filterMap (cloning.addition? group other) =
      trials.filterMap (cloning.addition? group memory) := by
  induction like with
  | nil => rfl
  | cons first rest inductionHypothesis =>
    rw [List.filterMap_cons, List.filterMap_cons, alike.addition? first, inductionHypothesis]

/-- Trials that end the same way have the same requests noted. -/
theorem requests_like {trials others : List Trial} (like : List.Forall₂ Trial.Like trials others) :
    others.map (fun trial => cloning.numbered group trial.number) =
      trials.map fun trial => cloning.numbered group trial.number := by
  induction like with
  | nil => rfl
  | cons first rest inductionHypothesis =>
    rw [List.map_cons, List.map_cons, first.number, inductionHypothesis]

/-- What trials of the group do leaves the inventories alike. -/
theorem SameTrials.afterTrials (alike : SameTrials cloning group memory other) {trials others : List Trial}
    (like : List.Forall₂ Trial.Like trials others) :
    SameTrials cloning group (cloning.afterTrials group trials memory)
      (cloning.afterTrials group others other) where
  templates := alike.templates
  failing := alike.failing
  cloneDelay := alike.cloneDelay
  hasTag := by rw [hasTag_afterTrials, hasTag_afterTrials, alike.hasTag]
  names number := by
    rw [Cloning.afterTrials, Cloning.afterTrials, Memory.grow_machines, Memory.grow_machines,
      alike.additions like, List.mem_append, List.mem_append, alike.names]

/-- All trials end the same way. -/
theorem SameTrials.trialsIn (alike : SameTrials cloning group memory other) (length number : Nat) :
    List.Forall₂ Trial.Like (cloning.trialsIn group length number memory)
      (cloning.trialsIn group length number other) := by
  induction length generalizing number memory other with
  | zero => exact .nil
  | succ length inductionHypothesis =>
    have first := alike.fateIn number
    exact .cons first (inductionHypothesis (alike.afterTrials (.cons first .nil)) (following number))

/-! ## Resizes in inventories that look alike -/

/-- A resize of the group cannot tell the inventories apart. -/
structure Indistinct (cloning : Cloning) (group : String) (memory other : Memory) : Prop where
  /-- Trials find the same. -/
  alike : SameTrials cloning group memory other
  /-- Only machines carry tags. -/
  sound : other.Sound
  /-- There are as many members. -/
  live : other.live cloning.cluster group = memory.live cloning.cluster group
  /-- A call for machines begins with the same number. -/
  firstNumber : cloning.firstNumber group other = cloning.firstNumber group memory

/-- An inventory cannot be told from itself. -/
theorem Indistinct.refl (sound : memory.Sound) : Indistinct cloning group memory memory where
  alike := ⟨rfl, rfl, rfl, rfl, fun _ => Iff.rfl⟩
  sound := sound
  live := rfl
  firstNumber := rfl

/-- Machines of another group make no difference. -/
theorem Indistinct.grow (sound : memory.Sound) {another : String} (differ : another ≠ group)
    {additions : List Addition} (own : Own cloning another memory additions)
    (requests : List CloneRequest) :
    Indistinct cloning group memory (memory.grow additions requests) := by
  have stays : ∀ addition ∈ additions, ¬addition.joins cloning.cluster group = true := by
    intro addition isAddition joins
    obtain ⟨-, same⟩ := Prod.mk.inj (own.only_joins isAddition joins)
    exact differ same.symm
  have names : (namesIn cloning.cluster group (memory.grow additions requests)).Perm
      (namesIn cloning.cluster group memory ++
        (additions.filter (·.joins cloning.cluster group)).map (·.name)) := namesIn_grow_perm sound
  rw [List.filter_eq_nil_iff.2 stays, List.map_nil, List.append_nil] at names
  exact {
    alike := {
      templates := rfl
      failing := rfl
      cloneDelay := rfl
      hasTag := own.hasTag_grow requests
      names := fun number => by
        rw [Memory.grow_machines, List.mem_append, or_iff_left]
        intro isNew
        obtain ⟨addition, isAddition, same⟩ := List.mem_map.1 isNew
        obtain ⟨⟨otherNumber, isName⟩, -⟩ := own addition isAddition
        exact differ (machineName_inj (isName.symm.trans same)).1 }
    sound := sound.grow _ _
    live := by rw [live_grow sound, List.countP_eq_zero.2 stays, Nat.add_zero]
    firstNumber := nextNumber_perm names }

/-- A call for machines does the same in all inventories that agree. -/
theorem create_determined (cloning : Cloning) (group : String) (count : Nat) (sound : memory.Sound) :
    ∃ result additions requests, Own cloning group memory additions ∧ ∀ other,
      Indistinct cloning group memory other →
        (cloning.create Memory.client group count).run.Gives Memory.answer other result
          (other.grow additions requests) := by
  obtain ⟨length, -, enough⟩ := create_gives cloning group count sound
  let trials := cloning.trialsIn group length (cloning.firstNumber group memory) memory
  refine ⟨(tally cloning group (counted mostCollisions trials)).result count,
    trials.filterMap (cloning.addition? group memory),
    trials.map fun trial => cloning.numbered group trial.number, own_additions trials,
    fun other indistinct => ?_⟩
  obtain ⟨another, gives, enoughToo⟩ := create_gives cloning group count indistinct.sound
  rw [indistinct.firstNumber] at gives enoughToo
  have like := indistinct.alike.trialsIn length (cloning.firstNumber group memory)
  obtain rfl := (enough.like like).unique enoughToo
  rw [afterTrials, indistinct.alike.additions like, requests_like like,
    ← tally_like (counted_like like)] at gives
  exact gives

end Cloning

namespace NodeGroup

variable {cloning : Cloning} {group : NodeGroup} {memory other : Memory} {delta : Int}

open Cloning

/-- What a resize does. -/
structure Effect where
  /-- Its result. -/
  result : Except ProviderError Unit
  /-- What the target grows by, if it is written at all. -/
  credit? : Option Nat
  /-- The machines that are made. -/
  additions : List Addition
  /-- The requests that are noted. -/
  requests : List CloneRequest

/-- The targets after a resize. -/
def Effect.raise (effect : Effect) (group : NodeGroup) (cells : List Nat) : List Nat :=
  match effect.credit? with
  | none => cells
  | some credit => cells.set group.cell (min (cells.getD group.cell 0 + credit) group.spec.maxSize)

/-- The targets of different groups are raised in either order. -/
theorem Effect.raise_comm {first second : NodeGroup} (differ : first.cell ≠ second.cell)
    (effect later : Effect) (cells : List Nat) :
    later.raise second (effect.raise first cells) = effect.raise first (later.raise second cells) := by
  have unread {cell another : Nat} (apart : cell ≠ another) (size : Nat) :
      (cells.set cell size).getD another 0 = cells.getD another 0 := by
    simp [List.getD_eq_getElem?_getD, List.getElem?_set_ne apart]
  cases isFirst : effect.credit? with
  | none => simp only [Effect.raise, isFirst]
  | some credit =>
    cases isSecond : later.credit? with
    | none => simp only [Effect.raise, isSecond]
    | some another =>
      simp only [Effect.raise, isFirst, isSecond]
      rw [unread differ, unread differ.symm, List.set_comm _ _ differ]

/-- A resize does the same in all inventories that agree. -/
theorem increase_determined (cloning : Cloning) (group : NodeGroup) (delta : Int)
    (sound : memory.Sound) :
    ∃ effect : Effect, Own cloning group.spec.name memory effect.additions ∧ ∀ cells other,
      Indistinct cloning group.spec.name memory other →
        (group.increase (cloning.provisioner Memory.client) delta).run.Gives (alone Memory.answer)
          ((), cells, other) effect.result
          ((), effect.raise group cells, other.grow effect.additions effect.requests) := by
  by_cases positive : 0 < delta
  · by_cases room : memory.live cloning.cluster group.spec.name % Nat.pow 2 32 + delta.toNat ≤
        group.spec.maxSize
    · obtain ⟨result, additions, requests, own, created⟩ :=
        create_determined cloning group.spec.name delta.toNat sound
      refine ⟨⟨result, some (made delta.toNat result), additions, requests⟩, own,
        fun cells other indistinct => ?_⟩
      rw [← indistinct.live] at room
      exact increase_made positive (size_gives cloning group.spec.name other) room
        (created other indistinct)
    · refine ⟨⟨.error (.sizeLimitExceeded (memory.live cloning.cluster group.spec.name % Nat.pow 2 32 +
        delta.toNat) group.spec.maxSize), none, [], []⟩, own_nil, fun cells other indistinct => ?_⟩
      rw [← indistinct.live] at room ⊢
      rw [Memory.grow_nil]
      exact increase_tooMany positive (size_gives cloning group.spec.name other)
        (Nat.not_le.1 room)
  · refine ⟨⟨.error (.invalidArgument "node group size increase must be positive"), none, [], []⟩,
      own_nil, fun cells other _ => ?_⟩
    rw [Memory.grow_nil]
    exact increase_senseless (Int.not_lt.1 positive)

/-- Resizes one group and then another. -/
def inTurn {I : Interface} (provisioner : Provisioner I) (first second : NodeGroup)
    (delta more : Int) : Plan (Resizing I) (Except ProviderError Unit × Except ProviderError Unit) := do
  let result ← (first.increase provisioner delta).run
  let later ← (second.increase provisioner more).run
  return (result, later)

/-- **Resizes of different groups commute.** Over an inventory in memory that nobody else changes,
resizes of two groups with different names and targets of their own, by any numbers of machines,
each have the same result in either order. They leave the same targets, and the same inventory but
for the numbers of the new machines. -/
theorem resizes_commute (cloning : Cloning) (reachable : memory.Reachable) {first second : NodeGroup}
    (differ : first.spec.name ≠ second.spec.name) (apart : first.cell ≠ second.cell)
    (delta more : Int) (cells : List Nat) :
    ∃ result later after there back,
      (inTurn (cloning.provisioner Memory.client) first second delta more).Gives
        (alone Memory.answer) ((), cells, memory) (result, later) ((), after, there) ∧
      (inTurn (cloning.provisioner Memory.client) second first more delta).Gives
        (alone Memory.answer) ((), cells, memory) (later, result) ((), after, back) ∧
      Memory.Renumbered memory.machines.length there back := by
  have sound := reachable.sound
  obtain ⟨effect, own, gives⟩ := increase_determined cloning first delta sound
  obtain ⟨later, ownLater, givesLater⟩ := increase_determined cloning second more sound
  have indistinct : Indistinct cloning second.spec.name memory
      (memory.grow effect.additions effect.requests) := .grow sound differ own _
  have indistinctToo : Indistinct cloning first.spec.name memory
      (memory.grow later.additions later.requests) := .grow sound differ.symm ownLater _
  refine ⟨effect.result, later.result, later.raise second (effect.raise first cells),
    (memory.grow effect.additions effect.requests).grow later.additions later.requests,
    (memory.grow later.additions later.requests).grow effect.additions effect.requests, ?_, ?_, ?_⟩
  · exact (gives cells memory (.refl sound)).bind
      ((givesLater _ _ indistinct).bind (Plan.gives_done _ _))
  · rw [Effect.raise_comm apart]
    exact (givesLater cells memory (.refl sound)).bind
      ((gives _ _ indistinctToo).bind (Plan.gives_done _ _))
  · rw [Memory.grow_grow, Memory.grow_grow]
    refine Memory.grow_swap sound fun addition isAddition tag isGiven => ?_
    rcases List.mem_append.1 isAddition with isFirst | isSecond
    · exact ((own addition isFirst).2 tag isGiven).2
    · exact ((ownLater addition isSecond).2 tag isGiven).2

/-- An inventory for two groups, with a machine left over that bears a name of the second one, and
a name of the first one that cannot be given to clones. -/
def nested : Memory :=
  let memory := Memory.empty.addTemplate "template"
  let memory := (memory.addMachine "prod-a-1-1" [clusterTag "prod"]).2
  let memory := (memory.createTag (groupTag "a")).createTag (groupTag "a-1")
  memory.failCloneOf "prod-a-2"

/-- The name of the first group is the beginning of the name of the second one. Two machines for
the first and one for the second are made in either order: one clone fails, and one name is passed
over. -/
theorem nested_commute :
    let cloning : Cloning := ⟨"prod", "template", "", "", .seconds 600⟩
    let first : NodeGroup := ⟨⟨"a", 0, 5⟩, 0⟩
    let second : NodeGroup := ⟨⟨"a-1", 0, 5⟩, 1⟩
    let provisioner := cloning.provisioner Memory.client
    let there := (inTurn provisioner first second 2 1).run (alone Memory.answer)
      ((), [0, 0], nested)
    let back := (inTurn provisioner second first 1 2).run (alone Memory.answer) ((), [0, 0], nested)
    let failed : ProviderError := .partialProvisioning 2 1
      ["prod-a-2: request failed: clone of prod-a-2 failed"]
    there.value = some (.error failed, .ok ()) ∧ back.value = some (.ok (), .error failed) ∧
      there.state.2.1 = [1, 1] ∧ back.state.2.1 = [1, 1] ∧
      there.state.2.2.machines = ["prod-a-1-1", "prod-a-1", "prod-a-1-2"] ∧
      back.state.2.2.machines = ["prod-a-1-1", "prod-a-1-2", "prod-a-1"] ∧
      Memory.Renumbered 1 there.state.2.2 back.state.2.2 := by
  intro cloning first second provisioner there back failed
  have reachable : nested.Reachable :=
    ((((Relation.ReflTransGen.refl.tail (.addTemplate _ _)).tail (.addMachine _ _ _)).tail
      (.createTag _ _)).tail (.createTag _ _)).tail (.failCloneOf _ _)
  have differ : first.spec.name ≠ second.spec.name := by decide
  have apart : first.cell ≠ second.cell := by decide
  obtain ⟨result, later, after, last, other, ⟨-, isLast⟩, ⟨-, isOther⟩, renumbered⟩ :=
    resizes_commute cloning reachable differ apart 2 1 [0, 0]
  have thereLeaves : there.state = ((), after, last) := isLast
  have backLeaves : back.state = ((), after, other) := isOther
  refine ⟨by decide +kernel, by decide +kernel, by decide +kernel, by decide +kernel,
    by decide +kernel, by decide +kernel, ?_⟩
  rw [thereLeaves, backLeaves]
  exact renumbered

end NodeGroup

end NodeScaler
