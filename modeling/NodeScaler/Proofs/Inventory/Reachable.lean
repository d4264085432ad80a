import Mathlib.Data.List.Basic
import Mathlib.Logic.Relation
import NodeScaler.Inventory.Memory
import NodeScaler.Inventory.Naming

/-!
# What can become of an inventory in memory

Everything that changes an inventory is one of a few operations. None of them takes a machine
away, and none puts a tag on something that is no machine. So a new machine carries no tag,
and what is a member of a group once stays one.
-/

namespace NodeScaler

namespace RefSet

/-- No reference occurs twice, since none is below itself. -/
theorem nodup (set : RefSet) : set.members.Nodup := by
  refine set.ascending.imp fun {first second} less same => ?_
  rw [same] at less
  exact ObjectRef.lt_irrefl _ less

/-- Sets with the same members are equal, since their members stand in the same order. -/
theorem eq_of_mem {first second : RefSet} (same : ∀ object, object ∈ first ↔ object ∈ second) :
    first = second := by
  have perm := (List.perm_ext_iff_of_nodup first.nodup second.nodup).2 same
  have members : first.members = second.members := by
    apply perm.eq_of_pairwise _ first.ascending second.ascending
    intro left right _ _ less greater
    exact absurd greater (ObjectRef.lt_asymm less)
  cases first
  cases second
  congr

/-- Sets with the same members have equally many. -/
theorem length_eq {first second : RefSet} (same : ∀ object, object ∈ first ↔ object ∈ second) :
    first.members.length = second.members.length := by
  rw [eq_of_mem same]

/-- Nothing is shared that was not shared before, if the new reference is not in the other set. -/
theorem length_insert_intersect {first second : RefSet} {object : ObjectRef}
    (absent : object ∉ second) :
    ((first.insert object).intersect second).members.length =
      (first.intersect second).members.length := by
  refine length_eq fun other => ?_
  rw [mem_intersect, mem_intersect, mem_insert]
  constructor
  · rintro ⟨rfl | isIn, isShared⟩
    · exact absurd isShared absent
    · exact ⟨isIn, isShared⟩
  · exact fun ⟨isIn, isShared⟩ => ⟨.inr isIn, isShared⟩

/-- One more is shared, if the new reference is in the other set. -/
theorem length_intersect_insert {first second : RefSet} {object : ObjectRef}
    (present : object ∈ first) (absent : object ∉ second) :
    (first.intersect (second.insert object)).members.length =
      (first.intersect second).members.length + 1 := by
  have isNew : object ∉ first.intersect second := fun isIn => absent (mem_intersect.1 isIn).2
  have shared : ∀ other, other ∈ (first.intersect (second.insert object)).members ↔
      other ∈ object :: (first.intersect second).members := by
    intro other
    rw [List.mem_cons]
    change other ∈ first.intersect (second.insert object) ↔
      other = object ∨ other ∈ first.intersect second
    rw [mem_intersect, mem_intersect, mem_insert]
    constructor
    · rintro ⟨isIn, rfl | isShared⟩
      · exact .inl rfl
      · exact .inr ⟨isIn, isShared⟩
    · rintro (rfl | ⟨isIn, isShared⟩)
      · exact ⟨present, .inl rfl⟩
      · exact ⟨isIn, .inr isShared⟩
  exact ((List.perm_ext_iff_of_nodup (nodup _) (List.nodup_cons.2 ⟨isNew, nodup _⟩)).2
    shared).length_eq

end RefSet

namespace Memory

/-! ## Machines and tags -/

/-- Machines with different numbers are different. -/
theorem machine_injective {first second : Nat} (same : machine first = machine second) :
    first = second := by
  have texts : toString first = toString second := by
    simpa [machine, ObjectRef.vm] using same
  have digits : Nat.toDigits 10 first = Nat.toDigits 10 second := by
    simpa [toString, Nat.repr, String.ofList_inj] using texts
  rw [← Nat.ofDigitChars_ten_toDigits (n := first), digits, Nat.ofDigitChars_ten_toDigits]

/-- The object is a machine of the inventory. -/
def Has (memory : Memory) (object : ObjectRef) : Prop :=
  ∃ number, number < memory.machines.length ∧ object = machine (number + 1)

/-- What can be found are the machines. -/
theorem find?_isSome_iff {memory : Memory} {object : ObjectRef} :
    (memory.find? object).isSome ↔ memory.Has object := by
  rw [find?, Option.isSome_map, List.find?_isSome]
  constructor
  · rintro ⟨⟨name, number⟩, isIn, same⟩
    obtain ⟨first, last, -⟩ := List.mem_zipIdx isIn
    exact ⟨number - 1, by omega, by simp_all [show number - 1 + 1 = number by omega]⟩
  · rintro ⟨number, isKnown, rfl⟩
    refine ⟨(memory.machines[number], number + 1), ?_, by simp⟩
    rw [List.mem_iff_getElem?]
    exact ⟨number, by simp [isKnown, Nat.add_comm]⟩

/-- What is found is a machine with its number and its name. -/
theorem index_of_find? {memory : Memory} {object : ObjectRef} {number : Nat} {name : String}
    (found : memory.find? object = some (number, name)) :
    ∃ index, index < memory.machines.length ∧ object = machine (index + 1) ∧ number = index + 1 := by
  obtain ⟨⟨other, position⟩, isFound, same⟩ := Option.map_eq_some_iff.1 found
  obtain ⟨rfl, rfl⟩ := Prod.mk.inj same
  have isObject : machine position = object := by
    simpa using List.find?_some isFound
  obtain ⟨first, last, -⟩ := List.mem_zipIdx (List.mem_of_find?_eq_some isFound)
  exact ⟨position - 1, by omega, by rw [← isObject, Nat.sub_add_cancel first], by omega⟩

/-- The objects that carry a tag; none when there is no such tag. -/
def carrying (memory : Memory) (tag : String) : RefSet := (memory.carriers? tag).getD .empty

/-- Changing one tag leaves the others alone. -/
theorem lookup_alterTag (tag other : String) (change : RefSet → RefSet)
    (tags : List (String × RefSet)) :
    (alterTag tag change tags).lookup other =
      if other = tag then some (change ((tags.lookup tag).getD .empty)) else tags.lookup other := by
  induction tags with
  | nil =>
    by_cases same : other = tag
    · simp [alterTag, same]
    · simp [alterTag, same]
  | cons first rest inductionHypothesis =>
    obtain ⟨name, carriers⟩ := first
    rw [alterTag]
    by_cases isFirst : name = tag
    · subst isFirst
      by_cases same : other = name
      · simp [same]
      · simp [List.lookup_cons, same, beq_eq_false_iff_ne.2 same]
    · have behind : tag ≠ name := Ne.symm isFirst
      rw [if_neg isFirst]
      by_cases isOther : other = name
      · subst isOther
        simp [isFirst]
      · simp [List.lookup_cons, beq_eq_false_iff_ne.2 isOther, beq_eq_false_iff_ne.2 behind,
          inductionHypothesis]

/-- Putting a tag on an object adds it to those that carry the tag. -/
theorem carrying_putTag (object : ObjectRef) (memory : Memory) (tag other : String) :
    (memory.putTag object tag).carrying other =
      if other = tag then (memory.carrying tag).insert object else memory.carrying other := by
  rw [carrying, carriers?, putTag, lookup_alterTag]
  split <;> rfl

/-- Creating a tag changes nothing about who carries what. -/
theorem carrying_createTag (memory : Memory) (tag other : String) :
    (memory.createTag tag).carrying other = memory.carrying other := by
  rw [carrying, carriers?, createTag, lookup_alterTag]
  split
  · next same =>
    subst same
    rfl
  · rfl

/-! ## Operations -/

/-- What can happen to an inventory. -/
inductive Step : Memory → Memory → Prop where
  /-- A template is added. -/
  | addTemplate (name : String) (memory : Memory) : Step memory (memory.addTemplate name)
  /-- A tag is created. -/
  | createTag (tag : String) (memory : Memory) : Step memory (memory.createTag tag)
  /-- A machine is added that carries tags. -/
  | addMachine (name : String) (tags : List String) (memory : Memory) :
      Step memory (memory.addMachine name tags).2
  /-- Clones with a name are made to fail. -/
  | failCloneOf (name : String) (memory : Memory) : Step memory (memory.failCloneOf name)
  /-- The time that a clone takes is set. -/
  | setCloneDelay (delay : Duration) (memory : Memory) : Step memory (memory.setCloneDelay delay)
  /-- A request is answered. -/
  | answer (question : Question) (memory : Memory) : Step memory (answer question memory).2

/-- The inventories that come of an empty one. -/
def Reachable (memory : Memory) : Prop := Relation.ReflTransGen Step empty memory

/-- Only machines carry tags. -/
def Sound (memory : Memory) : Prop :=
  ∀ (tag : String) (object : ObjectRef), object ∈ memory.carrying tag → memory.Has object

/-- A machine stays one when others are added. -/
theorem Has.mono {memory later : Memory} {object : ObjectRef} (has : memory.Has object)
    (grows : memory.machines.length ≤ later.machines.length) : later.Has object := by
  obtain ⟨number, isKnown, same⟩ := has
  exact ⟨number, by omega, same⟩

/-- Tagging a machine keeps an inventory sound. -/
theorem Sound.putTag {memory : Memory} (sound : memory.Sound) {object : ObjectRef}
    (has : memory.Has object) (tag : String) : (memory.putTag object tag).Sound := by
  intro other carrier isIn
  rw [carrying_putTag] at isIn
  split at isIn
  · rcases RefSet.mem_insert.1 isIn with rfl | isIn
    · exact has
    · exact sound tag carrier isIn
  · exact sound other carrier isIn

/-- A machine with a new number. -/
theorem Sound.allocate {memory : Memory} (sound : memory.Sound) (name : String) :
    (memory.allocate name).2.Sound ∧ (memory.allocate name).2.Has (memory.allocate name).1 ∧
      ∀ tag, (memory.allocate name).1 ∉ memory.carrying tag := by
  refine ⟨fun tag object isIn => (sound tag object isIn).mono ?_, ?_, fun tag isIn => ?_⟩
  · simp [Memory.allocate]
  · exact ⟨memory.machines.length, by simp [Memory.allocate], rfl⟩
  · obtain ⟨number, isKnown, same⟩ := sound tag _ isIn
    have := machine_injective same
    omega

/-- Operations keep an inventory sound and take no machine away. -/
theorem Step.sound {memory later : Memory} (step : Step memory later) (sound : memory.Sound) :
    later.Sound ∧ memory.machines.length ≤ later.machines.length := by
  cases step with
  | addTemplate | failCloneOf | setCloneDelay => exact ⟨sound, Nat.le_refl _⟩
  | createTag tag =>
    refine ⟨fun other object isIn => sound other object ?_, Nat.le_refl _⟩
    rwa [carrying_createTag] at isIn
  | addMachine name tags =>
    obtain ⟨allocated, has, -⟩ := sound.allocate name
    have more : memory.machines.length ≤ (memory.allocate name).2.machines.length := by
      simp [Memory.allocate]
    unfold Memory.addMachine
    dsimp only
    generalize (memory.allocate name).2 = start at allocated has more
    generalize (memory.allocate name).1 = object at has
    induction tags generalizing start with
    | nil => exact ⟨allocated, more⟩
    | cons first rest inductionHypothesis =>
      exact inductionHypothesis _ (allocated.putTag has first) more has
  | answer question =>
    cases question with
    | resolve => exact ⟨sound, Nat.le_refl _⟩
    | name object | uuid object =>
      rw [Memory.answer]
      split <;> exact ⟨sound, Nat.le_refl _⟩
    | attach tag object =>
      rw [Memory.answer]
      split
      · exact ⟨sound, Nat.le_refl _⟩
      · next found =>
        split
        · exact ⟨sound, Nat.le_refl _⟩
        · refine ⟨sound.putTag (find?_isSome_iff.1 ?_) tag, Nat.le_refl _⟩
          simpa [Option.isSome_iff_ne_none] using found
    | beginClone request =>
      rw [Memory.answer]
      dsimp only
      split <;> exact ⟨sound, Nat.le_refl _⟩
    | finishClone request =>
      rw [Memory.answer]
      split
      · exact ⟨sound, Nat.le_refl _⟩
      · split
        · exact ⟨sound, Nat.le_refl _⟩
        · exact ⟨(sound.allocate request.name).1, by simp [Memory.allocate]⟩

/-- What comes of an empty inventory is sound. -/
theorem Reachable.sound {memory : Memory} (reachable : memory.Reachable) : memory.Sound := by
  induction reachable with
  | refl => exact fun tag object isIn => nomatch isIn
  | tail _ step inductionHypothesis => exact (step.sound inductionHypothesis).1

end Memory

end NodeScaler
