import NodeScaler.Proofs.Inventory.Growth
import NodeScaler.Proofs.Provider.Viewing

/-!
# Who joins a group

When an inventory grows, a machine joins a group just if it is given both the tag of the cluster
and the tag of the group. Nobody leaves, nobody who was there before joins, and the machines that
join bring their own names.
-/

namespace NodeScaler

/-- The machine is given both tags of a group. -/
def Addition.joins (cluster group : String) (addition : Addition) : Bool :=
  decide (clusterTag cluster ∈ addition.tags) && decide (groupTag group ∈ addition.tags)

/-- A machine joins if it is given both tags. -/
theorem Addition.joins_iff {cluster group : String} {addition : Addition} :
    addition.joins cluster group = true ↔
      clusterTag cluster ∈ addition.tags ∧ groupTag group ∈ addition.tags := by
  simp [Addition.joins]

namespace Cloning

/-- The machines that join a group, of those that are added under consecutive numbers. -/
def newcomers (cluster group : String) : Nat → List Addition → List ObjectRef
  | _, [] => []
  | number, addition :: later =>
    if addition.joins cluster group then
      Memory.machine number :: newcomers cluster group (number + 1) later
    else newcomers cluster group (number + 1) later

variable {cluster group : String} {memory : Memory} {additions : List Addition}
  {requests : List CloneRequest}

/-- Newcomers are machines that are added and given both tags. -/
theorem mem_newcomers {number : Nat} {object : ObjectRef} :
    object ∈ newcomers cluster group number additions ↔ ∃ index addition,
      additions[index]? = some addition ∧ addition.joins cluster group = true ∧
        object = Memory.machine (number + index) := by
  induction additions generalizing number with
  | nil => simp [newcomers]
  | cons first rest inductionHypothesis =>
    have shifted : (∃ index addition, (first :: rest)[index]? = some addition ∧
        addition.joins cluster group = true ∧ object = Memory.machine (number + index)) ↔
        (first.joins cluster group = true ∧ object = Memory.machine number) ∨
          object ∈ newcomers cluster group (number + 1) rest := by
      rw [inductionHypothesis]
      constructor
      · rintro ⟨index, addition, isAddition, joins, isObject⟩
        cases index with
        | zero =>
          cases isAddition
          exact .inl ⟨joins, isObject⟩
        | succ index =>
          exact .inr ⟨index, addition, isAddition, joins, by rw [isObject]; congr 1; omega⟩
      · rintro (⟨joins, isObject⟩ | ⟨index, addition, isAddition, joins, isObject⟩)
        · exact ⟨0, first, rfl, joins, isObject⟩
        · exact ⟨index + 1, addition, isAddition, joins, by rw [isObject]; congr 1; omega⟩
    rw [shifted, newcomers]
    split
    · next joins => simp [joins]
    · next stays => simp [stays]

/-- Nobody joins twice. -/
theorem nodup_newcomers (number : Nat) (additions : List Addition) :
    (newcomers cluster group number additions).Nodup := by
  induction additions generalizing number with
  | nil => exact .nil
  | cons first rest inductionHypothesis =>
    rw [newcomers]
    split
    · refine List.nodup_cons.2 ⟨fun isLater => ?_, inductionHypothesis _⟩
      obtain ⟨index, _, -, -, same⟩ := mem_newcomers.1 isLater
      have sameNumber := Memory.machine_injective same
      omega
    · exact inductionHypothesis _

/-- As many machines join as are given both tags. -/
theorem length_newcomers (number : Nat) (additions : List Addition) :
    (newcomers cluster group number additions).length =
      additions.countP (·.joins cluster group) := by
  induction additions generalizing number with
  | nil => rfl
  | cons first rest inductionHypothesis =>
    rw [newcomers, List.countP_cons]
    split
    · rw [List.length_cons, inductionHypothesis]
    · exact inductionHypothesis _

/-- Members are those that were there before, and the newcomers. -/
theorem mem_membersIn_grow {object : ObjectRef} (sound : memory.Sound) :
    object ∈ membersIn cluster group (memory.grow additions requests) ↔
      object ∈ membersIn cluster group memory ∨
        object ∈ newcomers cluster group (memory.machines.length + 1) additions := by
  by_cases has : memory.Has object
  · have isOld : object ∉ newcomers cluster group (memory.machines.length + 1) additions := by
      intro isNew
      obtain ⟨index, _, -, -, same⟩ := mem_newcomers.1 isNew
      obtain ⟨number, isKnown, isObject⟩ := has
      have sameNumber := Memory.machine_injective (isObject.symm.trans same)
      omega
    rw [or_iff_left isOld]
    simp only [membersIn, RefSet.mem_intersect, Memory.mem_carrying_grow_of_has has]
  · have isNew (tag : String) : object ∉ memory.carrying tag := fun carries =>
      has (sound tag object carries)
    have noMember : object ∉ membersIn cluster group memory := fun isMember =>
      isNew _ (RefSet.mem_intersect.1 isMember).1
    rw [or_iff_right noMember, mem_newcomers]
    simp only [membersIn, RefSet.mem_intersect, Memory.mem_carrying_grow, isNew, false_or,
      Addition.joins_iff]
    constructor
    · rintro ⟨⟨index, addition, isAddition, inCluster, isObject⟩,
        other, another, isOther, inGroup, same⟩
      obtain rfl : index = other := by
        have sameNumber := Memory.machine_injective (isObject.symm.trans same)
        omega
      obtain rfl := Option.some.inj (isAddition.symm.trans isOther)
      exact ⟨index, addition, isAddition, ⟨inCluster, inGroup⟩,
        by rw [isObject]; congr 1; omega⟩
    · rintro ⟨index, addition, isAddition, ⟨inCluster, inGroup⟩, isObject⟩
      have same : object = Memory.machine (memory.machines.length + index + 1) := by
        rw [isObject]
        congr 1
        omega
      exact ⟨⟨index, addition, isAddition, inCluster, same⟩,
        index, addition, isAddition, inGroup, same⟩

/-- The members of a group, as a list: the newcomers are behind those that were there before, up
to the order. -/
theorem membersIn_grow_perm (sound : memory.Sound) :
    (membersIn cluster group (memory.grow additions requests)).members.Perm
      ((membersIn cluster group memory).members ++
        newcomers cluster group (memory.machines.length + 1) additions) := by
  have apart : ∀ old ∈ (membersIn cluster group memory).members,
      ∀ new ∈ newcomers cluster group (memory.machines.length + 1) additions, old ≠ new := by
    rintro object isOld _ isNew rfl
    obtain ⟨number, isKnown, isObject⟩ := sound _ _ (RefSet.mem_intersect.1 isOld).1
    obtain ⟨index, _, -, -, same⟩ := mem_newcomers.1 isNew
    have sameNumber := Memory.machine_injective (isObject.symm.trans same)
    omega
  rw [List.perm_ext_iff_of_nodup (RefSet.nodup _)
    (List.nodup_append.2 ⟨RefSet.nodup _, nodup_newcomers _ _, apart⟩)]
  intro object
  rw [List.mem_append]
  exact mem_membersIn_grow sound

/-- A group grows by the machines that are given both tags. -/
theorem live_grow (sound : memory.Sound) :
    (memory.grow additions requests).live cluster group =
      memory.live cluster group + additions.countP (·.joins cluster group) := by
  rw [← length_newcomers (memory.machines.length + 1)]
  exact (membersIn_grow_perm sound).length_eq.trans List.length_append

/-! ## Names -/

/-- The name of the machine with a number. -/
theorem nameIn_machine {index : Nat} {name : String}
    (isName : memory.machines[index]? = some name) :
    nameIn memory (Memory.machine (index + 1)) = name := by
  rw [nameIn, Memory.find?_machine isName]
  rfl

/-- Newcomers bring their names. -/
theorem names_newcomers {number : Nat} (additions : List Addition)
    (named : ∀ index addition, additions[index]? = some addition →
      nameIn memory (Memory.machine (number + index)) = addition.name) :
    (newcomers cluster group number additions).map (nameIn memory) =
      (additions.filter (·.joins cluster group)).map (·.name) := by
  induction additions generalizing number with
  | nil => rfl
  | cons first rest inductionHypothesis =>
    have behind : (newcomers cluster group (number + 1) rest).map (nameIn memory) =
        (rest.filter (·.joins cluster group)).map (·.name) := by
      refine inductionHypothesis fun index addition isAddition => ?_
      rw [Nat.add_assoc, Nat.add_comm 1]
      exact named (index + 1) addition isAddition
    have own : nameIn memory (Memory.machine number) = first.name := named 0 first rfl
    rw [newcomers, List.filter_cons]
    split
    · rw [List.map_cons, List.map_cons, behind, own]
    · exact behind

/-- The names of the members of a group in an inventory. -/
def namesIn (cluster group : String) (memory : Memory) : List String :=
  (membersIn cluster group memory).members.map (nameIn memory)

/-- A group has the names of its members from before, and those of the newcomers. -/
theorem namesIn_grow_perm (sound : memory.Sound) :
    (namesIn cluster group (memory.grow additions requests)).Perm
      (namesIn cluster group memory ++
        (additions.filter (·.joins cluster group)).map (·.name)) := by
  have old : (membersIn cluster group memory).members.map
      (nameIn (memory.grow additions requests)) = namesIn cluster group memory := by
    refine List.map_congr_left fun object isMember => ?_
    rw [nameIn, Memory.find?_grow_of_has (sound _ _ (RefSet.mem_intersect.1 isMember).1), nameIn]
  have new : (newcomers cluster group (memory.machines.length + 1) additions).map
      (nameIn (memory.grow additions requests)) =
        (additions.filter (·.joins cluster group)).map (·.name) := by
    refine names_newcomers additions fun index addition isAddition => ?_
    rw [Nat.add_right_comm]
    apply nameIn_machine
    rw [Memory.grow_machines, List.getElem?_append_right (Nat.le_add_right _ _),
      Nat.add_sub_cancel_left, List.getElem?_map, isAddition]
    rfl
  rw [← old, ← new, ← List.map_append]
  exact (membersIn_grow_perm sound).map _

end Cloning

end NodeScaler
