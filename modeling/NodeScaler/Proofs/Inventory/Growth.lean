import Mathlib.Data.List.Induction
import NodeScaler.Proofs.Inventory.Answering

/-!
# How an inventory in memory grows

Whoever only asks for clones and tags has machines added behind those that are there, has each of
them given some tags, and has requests noted. The machines with their tags, and the requests, say
all about what has happened: growing by some and then by others is growing by all of them. What was
there before keeps its place, its name and its tags.
-/

namespace NodeScaler

/-- A machine that is added to an inventory. -/
structure Addition where
  /-- Its name. -/
  name : String
  /-- The tags that it is given, one after the other. -/
  tags : List String
deriving DecidableEq

namespace Memory

/-- The tags after an object has been given some of them. -/
def give (object : ObjectRef) (given : List String) (tags : List (String × RefSet)) :
    List (String × RefSet) :=
  given.foldl (fun tags tag => alterTag tag (·.insert object) tags) tags

/-- The tags after machines, numbered from a number on, have been given theirs. -/
def giveAll : Nat → List Addition → List (String × RefSet) → List (String × RefSet)
  | _, [], tags => tags
  | number, addition :: later, tags =>
    giveAll (number + 1) later (give (machine number) addition.tags tags)

/-- The inventory with machines added and requests noted. -/
def grow (additions : List Addition) (requests : List CloneRequest) (memory : Memory) : Memory :=
  { memory with
    machines := memory.machines ++ additions.map (·.name)
    tags := giveAll (memory.machines.length + 1) additions memory.tags
    requests := memory.requests ++ requests }

variable {memory : Memory} {additions more : List Addition} {requests others : List CloneRequest}

/-- Tags are given to machines in parts. -/
theorem giveAll_append (number : Nat) (additions more : List Addition)
    (tags : List (String × RefSet)) :
    giveAll number (additions ++ more) tags =
      giveAll (number + additions.length) more (giveAll number additions tags) := by
  induction additions generalizing number tags with
  | nil => rfl
  | cons first rest inductionHypothesis =>
    rw [List.cons_append, giveAll, inductionHypothesis, giveAll, List.length_cons, Nat.add_assoc,
      Nat.add_comm 1]

/-- Growing twice is growing by all of it. -/
theorem grow_grow (memory : Memory) (additions more : List Addition)
    (requests others : List CloneRequest) :
    (memory.grow additions requests).grow more others =
      memory.grow (additions ++ more) (requests ++ others) := by
  simp only [grow, List.map_append, List.append_assoc, giveAll_append, List.length_append,
    List.length_map, Nat.add_right_comm]

/-- Growing by nothing changes nothing. -/
@[simp] theorem grow_nil (memory : Memory) : memory.grow [] [] = memory := by
  simp [grow, giveAll]

/-- The machines are added one after the other. -/
theorem grow_cons (memory : Memory) (first : Addition) (rest : List Addition)
    (requests : List CloneRequest) :
    memory.grow (first :: rest) requests = (memory.grow [first] requests).grow rest [] := by
  rw [grow_grow, List.append_nil, List.singleton_append]

/-- Machines are added behind those that are there. -/
@[simp] theorem grow_machines :
    (memory.grow additions requests).machines = memory.machines ++ additions.map (·.name) := rfl

/-- The number of machines grows by those that are added. -/
@[simp] theorem length_grow_machines : (memory.grow additions requests).machines.length =
    memory.machines.length + additions.length := by
  rw [grow_machines, List.length_append, List.length_map]

/-- Requests are noted behind those that are there. -/
@[simp] theorem grow_requests :
    (memory.grow additions requests).requests = memory.requests ++ requests := rfl

/-- There are the same templates. -/
@[simp] theorem grow_templates :
    (memory.grow additions requests).templates = memory.templates := rfl

/-- The same clones fail. -/
@[simp] theorem grow_failing : (memory.grow additions requests).failing = memory.failing := rfl

/-- Clones take the same time. -/
@[simp] theorem grow_cloneDelay :
    (memory.grow additions requests).cloneDelay = memory.cloneDelay := rfl

/-! ## Steps of growing -/

/-- Noting a request is growing. -/
theorem note_eq_grow (request : CloneRequest) (memory : Memory) :
    memory.note request = memory.grow [] [request] := by
  simp [note, grow, giveAll]

/-- A machine without tags is added. -/
theorem allocate_eq_grow (name : String) (memory : Memory) :
    (memory.allocate name).2 = memory.grow [⟨name, []⟩] [] := by
  simp [allocate, grow, giveAll, give]

/-- The machine that has been added last is given one more tag. -/
theorem putTag_grow (memory : Memory) (name : String) (given : List String)
    (requests : List CloneRequest) (tag : String) :
    (memory.grow [⟨name, given⟩] requests).putTag (machine (memory.machines.length + 1)) tag =
      memory.grow [⟨name, given ++ [tag]⟩] requests := by
  simp [putTag, grow, giveAll, give, List.foldl_append]

/-! ## Who carries what -/

/-- The tags of one machine that is added. -/
theorem mem_carrying_grow_one {name : String} {given : List String} {object : ObjectRef}
    {tag : String} :
    object ∈ (memory.grow [⟨name, given⟩] requests).carrying tag ↔
      object ∈ memory.carrying tag ∨
        (tag ∈ given ∧ object = machine (memory.machines.length + 1)) := by
  induction given using List.reverseRecOn with
  | nil => exact ⟨.inl, fun either => either.resolve_right fun absent => nomatch absent.1⟩
  | append_singleton given last inductionHypothesis =>
    rw [← putTag_grow, carrying_putTag, List.mem_append, List.mem_singleton]
    by_cases same : tag = last
    · subst same
      rw [if_pos rfl, RefSet.mem_insert, inductionHypothesis]
      tauto
    · rw [if_neg same, inductionHypothesis]
      tauto

/-- A tag is carried by those that carried it before, and by the machines that have been given
it. -/
theorem mem_carrying_grow {object : ObjectRef} {tag : String} :
    object ∈ (memory.grow additions requests).carrying tag ↔
      object ∈ memory.carrying tag ∨ ∃ index addition, additions[index]? = some addition ∧
        tag ∈ addition.tags ∧ object = machine (memory.machines.length + index + 1) := by
  induction additions generalizing memory requests with
  | nil =>
    constructor
    · exact .inl
    · rintro (carries | ⟨index, addition, isAddition, -⟩)
      · exact carries
      · cases isAddition
  | cons first rest inductionHypothesis =>
    obtain ⟨name, given⟩ := first
    rw [grow_cons, inductionHypothesis, mem_carrying_grow_one, length_grow_machines]
    constructor
    · rintro ((carries | ⟨isGiven, isNew⟩) | ⟨index, addition, isAddition, isGiven, isNew⟩)
      · exact .inl carries
      · exact .inr ⟨0, ⟨name, given⟩, rfl, isGiven, isNew⟩
      · refine .inr ⟨index + 1, addition, isAddition, isGiven, isNew.trans ?_⟩
        rw [List.length_singleton, Nat.add_assoc _ 1 index, Nat.add_comm 1 index]
    · rintro (carries | ⟨index, addition, isAddition, isGiven, isNew⟩)
      · exact .inl (.inl carries)
      · cases index with
        | zero =>
          cases isAddition
          exact .inl (.inr ⟨isGiven, isNew⟩)
        | succ index =>
          refine .inr ⟨index, addition, isAddition, isGiven, isNew.trans ?_⟩
          rw [List.length_singleton, Nat.add_assoc _ 1 index, Nat.add_comm 1 index]

/-- Machines that were there before carry what they carried. -/
theorem mem_carrying_grow_of_has {object : ObjectRef} (has : memory.Has object) {tag : String} :
    object ∈ (memory.grow additions requests).carrying tag ↔ object ∈ memory.carrying tag := by
  rw [mem_carrying_grow, or_iff_left]
  rintro ⟨index, addition, -, -, isNew⟩
  obtain ⟨number, isKnown, isOld⟩ := has
  have same := machine_injective (isOld.symm.trans isNew)
  omega

/-- An inventory that grows stays sound. -/
theorem Sound.grow (sound : memory.Sound) (additions : List Addition)
    (requests : List CloneRequest) : (memory.grow additions requests).Sound := by
  intro tag object carries
  rcases mem_carrying_grow.1 carries with before | ⟨index, addition, isAddition, -, isNew⟩
  · exact (sound tag object before).mono (by rw [length_grow_machines]; omega)
  · obtain ⟨inside, -⟩ := List.getElem?_eq_some_iff.1 isAddition
    exact ⟨memory.machines.length + index, by rw [length_grow_machines]; omega, isNew⟩

/-! ## Which tags there are -/

/-- There is a tag if its name is in the list. -/
theorem carriers?_isSome_iff {tag : String} :
    (memory.carriers? tag).isSome = true ↔ tag ∈ memory.tags.map (·.1) := by
  rw [carriers?]
  induction memory.tags with
  | nil => simp
  | cons first rest inductionHypothesis =>
    obtain ⟨name, carriers⟩ := first
    rw [List.lookup_cons, List.map_cons, List.mem_cons, ← inductionHypothesis]
    by_cases same : tag = name
    · simp [same]
    · simp [same, beq_eq_false_iff_ne.2 same]

/-- Giving tags that there are creates none. -/
theorem grow_tagNames
    (exist : ∀ addition ∈ additions, ∀ tag ∈ addition.tags, (memory.carriers? tag).isSome = true) :
    (memory.grow additions requests).tags.map (·.1) = memory.tags.map (·.1) := by
  induction additions generalizing memory requests with
  | nil => rfl
  | cons first rest inductionHypothesis =>
    obtain ⟨name, given⟩ := first
    have one : (memory.grow [⟨name, given⟩] requests).tags.map (·.1) = memory.tags.map (·.1) := by
      have present := exist _ List.mem_cons_self
      clear exist
      induction given using List.reverseRecOn with
      | nil => rfl
      | append_singleton given last before =>
        have unchanged := before fun tag isGiven => present tag (List.mem_append_left _ isGiven)
        have hasLast : ((memory.grow [⟨name, given⟩] requests).carriers? last).isSome = true := by
          rw [carriers?_isSome_iff, unchanged, ← carriers?_isSome_iff]
          exact present last (List.mem_append_right _ (List.mem_singleton_self last))
        rw [← putTag_grow]
        exact (alterTag_names _ hasLast).trans unchanged
    rw [grow_cons, inductionHypothesis, one]
    intro addition isIn tag isGiven
    rw [carriers?_isSome_iff, one, ← carriers?_isSome_iff]
    exact exist addition (List.mem_cons_of_mem _ isIn) tag isGiven

/-! ## What is found -/

/-- The machine of a number is found under its name. -/
theorem find?_machine {index : Nat} {name : String} (isName : memory.machines[index]? = some name) :
    memory.find? (machine (index + 1)) = some (index + 1, name) := by
  obtain ⟨inside, isAt⟩ := List.getElem?_eq_some_iff.1 isName
  have isThere : (memory.find? (machine (index + 1))).isSome :=
    find?_isSome_iff.2 ⟨index, inside, rfl⟩
  obtain ⟨⟨number, found⟩, isFound⟩ := Option.isSome_iff_exists.1 isThere
  obtain ⟨⟨other, position⟩, isEntry, same⟩ := Option.map_eq_some_iff.1 isFound
  obtain ⟨rfl, rfl⟩ := Prod.mk.inj same
  have isMachine : machine position = machine (index + 1) := by
    simpa using List.find?_some isEntry
  obtain ⟨-, -, isOther⟩ := List.mem_zipIdx (List.mem_of_find?_eq_some isEntry)
  obtain rfl := machine_injective isMachine
  rw [isFound, isOther, ← isAt]
  rfl

/-- What was found before is found as before. -/
theorem find?_grow_of_has {object : ObjectRef} (has : memory.Has object) :
    (memory.grow additions requests).find? object = memory.find? object := by
  obtain ⟨index, inside, rfl⟩ := has
  have isName : memory.machines[index]? = some memory.machines[index] :=
    List.getElem?_eq_getElem inside
  rw [find?_machine isName]
  apply find?_machine
  rw [grow_machines, List.getElem?_append_left inside, isName]

end Memory

end NodeScaler
