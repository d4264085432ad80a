import NodeScaler.Proofs.Inventory.Reachable

/-!
# Members of groups in memory

A machine is a member of a group when it carries two tags, so it matters little which of them
it gets first: it becomes a member with the second one, of this group and of no other. Anything
else may happen to the inventory meanwhile, as long as it does not change who carries the tags
of the groups.
-/

namespace NodeScaler

open Relation (ReflTransGen)

/-- The tag of a cluster is never the tag of a group. -/
theorem clusterTag_ne_groupTag (cluster group : String) : clusterTag cluster ≠ groupTag group := by
  intro same
  have letters := congrArg String.toList same
  simp [clusterTag, groupTag] at letters

/-- Different clusters have different tags. -/
theorem clusterTag_injective {first second : String} (same : clusterTag first = clusterTag second) :
    first = second := by
  have letters := congrArg String.toList same
  exact String.toList_injective (by simpa [clusterTag] using letters)

/-- Different groups have different tags. -/
theorem groupTag_injective {first second : String} (same : groupTag first = groupTag second) :
    first = second := by
  have letters := congrArg String.toList same
  exact String.toList_injective (by simpa [groupTag] using letters)

namespace Memory

/-- The number of members of a group. -/
def live (cluster group : String) (memory : Memory) : Nat :=
  ((memory.carrying (clusterTag cluster)).intersect
    (memory.carrying (groupTag group))).members.length

/-- Something else happens to an inventory, and the same objects carry the tags of the groups
as before. -/
def Elsewhere (cluster : String) (groups : List String) (before after : Memory) : Prop :=
  Step before after ∧
    after.carrying (clusterTag cluster) = before.carrying (clusterTag cluster) ∧
    ∀ group ∈ groups, after.carrying (groupTag group) = before.carrying (groupTag group)

variable {cluster : String} {groups : List String} {memory later : Memory}

/-- Whatever else happens, the inventory stays sound and keeps its machines, and the same
objects carry the tags of the groups. -/
theorem elsewhere_keeps (changes : ReflTransGen (Elsewhere cluster groups) memory later)
    (sound : memory.Sound) :
    later.Sound ∧ memory.machines.length ≤ later.machines.length ∧
      later.carrying (clusterTag cluster) = memory.carrying (clusterTag cluster) ∧
      ∀ group ∈ groups, later.carrying (groupTag group) = memory.carrying (groupTag group) := by
  induction changes with
  | refl => exact ⟨sound, Nat.le_refl _, rfl, fun _ _ => rfl⟩
  | tail _ change inductionHypothesis =>
    obtain ⟨soundBefore, grown, sameCluster, sameGroups⟩ := inductionHypothesis
    obtain ⟨step, clusterKept, groupsKept⟩ := change
    obtain ⟨soundAfter, grows⟩ := step.sound soundBefore
    exact ⟨soundAfter, Nat.le_trans grown grows, clusterKept.trans sameCluster,
      fun group isGroup => (groupsKept group isGroup).trans (sameGroups group isGroup)⟩

/-- How the members of groups stand while machines are made for one of them: the others have
the number that they had, and the number of its own meets a condition. -/
structure Standing (cluster : String) (groups : List String) (base : String → Nat)
    (group : String) (own : Nat → Prop) (memory : Memory) : Prop where
  /-- Only machines carry tags. -/
  sound : memory.Sound
  /-- The other groups have the members that they had. -/
  others : ∀ other ∈ groups, other ≠ group → memory.live cluster other = base other
  /-- The group itself has so many. -/
  own : own (memory.live cluster group)

/-- A machine that carries no tag of a group. -/
def Fresh (groups : List String) (object : ObjectRef) (memory : Memory) : Prop :=
  memory.Has object ∧ ∀ group ∈ groups, object ∉ memory.carrying (groupTag group)

variable {base : String → Nat} {group : String} {own : Nat → Prop}

/-- The number of members meets every weaker condition too. -/
theorem Standing.imp {weaker : Nat → Prop}
    (standing : memory.Standing cluster groups base group own)
    (implies : ∀ {count}, own count → weaker count) :
    memory.Standing cluster groups base group weaker :=
  ⟨standing.sound, standing.others, implies standing.own⟩

/-- How the groups stand does not depend on what else happens. -/
theorem Standing.elsewhere (standing : memory.Standing cluster groups base group own)
    (isGroup : group ∈ groups) (changes : ReflTransGen (Elsewhere cluster groups) memory later) :
    later.Standing cluster groups base group own := by
  obtain ⟨sound, -, sameCluster, sameGroups⟩ := elsewhere_keeps changes standing.sound
  have same : ∀ other ∈ groups, later.live cluster other = memory.live cluster other :=
    fun other isOther => by rw [live, live, sameCluster, sameGroups other isOther]
  refine ⟨sound, fun other isOther differs => ?_, ?_⟩
  · rw [same other isOther, standing.others other isOther differs]
  · rw [same group isGroup]
    exact standing.own

/-- A fresh machine stays so. -/
theorem Fresh.elsewhere {object : ObjectRef} (fresh : memory.Fresh groups object)
    (sound : memory.Sound) (changes : ReflTransGen (Elsewhere cluster groups) memory later) :
    later.Fresh groups object := by
  obtain ⟨-, grows, -, sameGroups⟩ := elsewhere_keeps changes sound
  refine ⟨fresh.1.mono grows, fun group isGroup => ?_⟩
  rw [sameGroups group isGroup]
  exact fresh.2 group isGroup

/-- A machine with a new number is fresh, and no group has gained a member. -/
theorem Standing.allocate (standing : memory.Standing cluster groups base group own)
    (name : String) :
    (memory.allocate name).2.Standing cluster groups base group own ∧
      (memory.allocate name).2.Fresh groups (memory.allocate name).1 := by
  obtain ⟨sound, has, isNew⟩ := standing.sound.allocate name
  exact ⟨⟨sound, standing.others, standing.own⟩, has, fun _ _ => isNew _⟩

/-- The tag of the cluster does not make a fresh machine a member of any group. -/
theorem Standing.tagCluster (standing : memory.Standing cluster groups base group own)
    (isGroup : group ∈ groups) {object : ObjectRef} (fresh : memory.Fresh groups object) :
    (memory.putTag object (clusterTag cluster)).Standing cluster groups base group own ∧
      (memory.putTag object (clusterTag cluster)).Fresh groups object ∧
      object ∈ (memory.putTag object (clusterTag cluster)).carrying (clusterTag cluster) := by
  have carrying (other : String) :
      (memory.putTag object (clusterTag cluster)).carrying (groupTag other) =
        memory.carrying (groupTag other) := by
    rw [carrying_putTag, if_neg (clusterTag_ne_groupTag cluster other).symm]
  have same : ∀ other ∈ groups, (memory.putTag object (clusterTag cluster)).live cluster other =
      memory.live cluster other := by
    intro other isOther
    rw [live, live, carrying, carrying_putTag, if_pos rfl]
    exact RefSet.length_insert_intersect (fresh.2 other isOther)
  refine ⟨⟨standing.sound.putTag fresh.1 _, fun other isOther differs => ?_, ?_⟩,
    ⟨fresh.1, fun other isOther => ?_⟩, ?_⟩
  · rw [same other isOther, standing.others other isOther differs]
  · rw [same group isGroup]
    exact standing.own
  · rw [carrying]
    exact fresh.2 other isOther
  · rw [carrying_putTag, if_pos rfl]
    exact RefSet.mem_insert.2 (.inl rfl)

/-- The tag of the group makes a fresh machine of the cluster a member of this group and of no
other. -/
theorem Standing.tagGroup {count : Nat}
    (standing : memory.Standing cluster groups base group (· = count)) (isGroup : group ∈ groups)
    {object : ObjectRef} (fresh : memory.Fresh groups object)
    (isTagged : object ∈ memory.carrying (clusterTag cluster)) :
    (memory.putTag object (groupTag group)).Standing cluster groups base group (· = count + 1) := by
  have carryingCluster : (memory.putTag object (groupTag group)).carrying (clusterTag cluster) =
      memory.carrying (clusterTag cluster) := by
    rw [carrying_putTag, if_neg (clusterTag_ne_groupTag cluster group)]
  refine ⟨standing.sound.putTag fresh.1 _, fun other isOther differs => ?_, ?_⟩
  · have otherTag : groupTag other ≠ groupTag group := fun same =>
      differs (groupTag_injective same)
    rw [← standing.others other isOther differs, live, live, carryingCluster, carrying_putTag,
      if_neg otherTag]
  · have more := RefSet.length_intersect_insert isTagged (fresh.2 group isGroup)
    rw [live, carryingCluster, carrying_putTag, if_pos rfl, more]
    exact congrArg (· + 1) standing.own

end Memory

end NodeScaler
