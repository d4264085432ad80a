import Mathlib.Logic.Equiv.Defs
import NodeScaler.Proofs.Inventory.Growth

/-!
# Inventories up to the numbers of machines

The numbers of machines say in which order they were made. Two inventories may differ in nothing
else: then each machine of the one has a counterpart in the other, of the same name and with the
same tags. So it is if an inventory grows by some machines and by others, in either order.
-/

namespace NodeScaler.Memory

/-- The inventories hold the same machines but for their numbers; the numbers of those that have
long been known are the same too. The requests are the same but for their order. -/
structure Renumbered (known : Nat) (memory other : Memory) : Prop where
  /-- Each machine has a counterpart of the same name and with the same tags. -/
  machines : ∃ counterpart : Equiv.Perm Nat, (∀ index < known, counterpart index = index) ∧
    (∀ index : Nat, memory.machines[index]? = other.machines[counterpart index]?) ∧
    ∀ (index : Nat) (tag : String), machine (index + 1) ∈ memory.carrying tag ↔
      machine (counterpart index + 1) ∈ other.carrying tag
  /-- Nothing but machines carries tags. -/
  sound : memory.Sound ∧ other.Sound
  /-- There are the same tags. -/
  tags : memory.tags.map (·.1) = other.tags.map (·.1)
  /-- There are the same templates. -/
  templates : memory.templates = other.templates
  /-- The same clones fail. -/
  failing : memory.failing = other.failing
  /-- Clones take the same time. -/
  cloneDelay : memory.cloneDelay = other.cloneDelay
  /-- The same clones were asked for. -/
  requests : memory.requests.Perm other.requests

/-- Exchanges two blocks of numbers that follow each other. -/
def swapBlocks (start first second : Nat) : Equiv.Perm Nat where
  toFun index :=
    if index < start then index
    else if index < start + first then index + second
    else if index < start + first + second then index - first
    else index
  invFun index :=
    if index < start then index
    else if index < start + second then index + first
    else if index < start + second + first then index - second
    else index
  left_inv index := by
    dsimp only
    split_ifs <;> omega
  right_inv index := by
    dsimp only
    split_ifs <;> omega

/-- Numbers before both blocks stay. -/
theorem swapBlocks_of_lt {start index : Nat} (isBefore : index < start) (first second : Nat) :
    swapBlocks start first second index = index := if_pos isBefore

/-- Exchanging two lists exchanges their blocks of numbers. -/
theorem getElem?_swapBlocks {α : Type} (start : Nat) (first second : List α) {index : Nat}
    (isBehind : start ≤ index) :
    start ≤ swapBlocks start first.length second.length index ∧
      (first ++ second)[index - start]? =
        (second ++ first)[swapBlocks start first.length second.length index - start]? := by
  have whole : swapBlocks start first.length second.length index =
      if index < start + first.length then index + second.length
      else if index < start + first.length + second.length then index - first.length
      else index := if_neg (Nat.not_lt.2 isBehind)
  by_cases inFirst : index < start + first.length
  · rw [whole, if_pos inFirst, List.getElem?_append_left (by omega),
      List.getElem?_append_right (by omega)]
    refine ⟨by omega, ?_⟩
    congr 1
    omega
  · by_cases inSecond : index < start + first.length + second.length
    · rw [whole, if_neg inFirst, if_pos inSecond, List.getElem?_append_right (by omega),
        List.getElem?_append_left (by omega)]
      refine ⟨by omega, ?_⟩
      congr 1
      omega
    · rw [whole, if_neg inFirst, if_neg inSecond, List.getElem?_eq_none, List.getElem?_eq_none]
      · exact ⟨isBehind, rfl⟩
      · rw [List.length_append]
        omega
      · rw [List.length_append]
        omega

variable {memory : Memory} {additions more : List Addition} {requests others : List CloneRequest}

/-- The names of machines that are added. -/
theorem getElem?_grow_machines {index : Nat} (isNew : memory.machines.length ≤ index) :
    (memory.grow additions requests).machines[index]? =
      (additions[index - memory.machines.length]?).map (·.name) := by
  rw [grow_machines, List.getElem?_append_right isNew, List.getElem?_map]

/-- The tags of machines that are added. -/
theorem mem_carrying_grow_of_new (sound : memory.Sound) {index : Nat}
    (isNew : memory.machines.length ≤ index) {tag : String} :
    machine (index + 1) ∈ (memory.grow additions requests).carrying tag ↔
      ∃ addition, additions[index - memory.machines.length]? = some addition ∧
        tag ∈ addition.tags := by
  have absent : machine (index + 1) ∉ memory.carrying tag := by
    intro carries
    obtain ⟨number, isKnown, same⟩ := sound tag _ carries
    have sameNumber := machine_injective same
    omega
  rw [mem_carrying_grow, or_iff_right absent]
  constructor
  · rintro ⟨position, addition, isAddition, isGiven, same⟩
    have sameNumber := machine_injective same
    obtain rfl : position = index - memory.machines.length := by omega
    exact ⟨addition, isAddition, isGiven⟩
  · rintro ⟨addition, isAddition, isGiven⟩
    exact ⟨_, addition, isAddition, isGiven, by rw [Nat.add_sub_of_le isNew]⟩

/-- Growing by some machines and by others comes to the same in either order. -/
theorem grow_swap (sound : memory.Sound) (exist : ∀ addition ∈ additions ++ more,
      ∀ tag ∈ addition.tags, (memory.carriers? tag).isSome = true) :
    Renumbered memory.machines.length (memory.grow (additions ++ more) (requests ++ others))
      (memory.grow (more ++ additions) (others ++ requests)) where
  machines := by
    refine ⟨swapBlocks memory.machines.length additions.length more.length,
      fun index isOld => swapBlocks_of_lt isOld _ _, fun index => ?_, fun index tag => ?_⟩
    · by_cases isOld : index < memory.machines.length
      · rw [swapBlocks_of_lt isOld, grow_machines, grow_machines, List.getElem?_append_left isOld,
          List.getElem?_append_left isOld]
      · obtain ⟨isNew, same⟩ := getElem?_swapBlocks memory.machines.length additions more
          (Nat.not_lt.1 isOld)
        rw [getElem?_grow_machines (Nat.not_lt.1 isOld), getElem?_grow_machines isNew, same]
    · by_cases isOld : index < memory.machines.length
      · have has : memory.Has (machine (index + 1)) := ⟨index, isOld, rfl⟩
        rw [swapBlocks_of_lt isOld, mem_carrying_grow_of_has has, mem_carrying_grow_of_has has]
      · obtain ⟨isNew, same⟩ := getElem?_swapBlocks memory.machines.length additions more
          (Nat.not_lt.1 isOld)
        rw [mem_carrying_grow_of_new sound (Nat.not_lt.1 isOld),
          mem_carrying_grow_of_new sound isNew, same]
  sound := ⟨sound.grow _ _, sound.grow _ _⟩
  tags := by
    have existToo : ∀ addition ∈ more ++ additions, ∀ tag ∈ addition.tags,
        (memory.carriers? tag).isSome = true := fun addition isIn =>
      exist addition (List.mem_append.2 (List.mem_append.1 isIn).symm)
    rw [grow_tagNames exist, grow_tagNames existToo]
  templates := rfl
  failing := rfl
  cloneDelay := rfl
  requests := List.Perm.append_left _ List.perm_append_comm

end NodeScaler.Memory
