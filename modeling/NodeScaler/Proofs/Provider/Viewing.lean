import NodeScaler.Proofs.Plan.Settling
import NodeScaler.Proofs.Provider.Members
import NodeScaler.Provider.Cloning

/-!
# What clients show of groups

A client shows an inventory in memory if its lookups settle on what the inventory holds: who
carries a tag, and the name and the identity of a machine. Then size, names and provider
identifiers of every group are determined by the inventory, whatever the client is made of.
-/

namespace NodeScaler.Cloning

variable {I : Interface} {σ : Type} {client : InventoryClient I} {handler : Handler I σ}
  {good : σ → Prop} {memory : Memory}

/-- The lookups of a client settle on what an inventory in memory holds. -/
structure Views (client : InventoryClient I) (handler : Handler I σ) (good : σ → Prop)
    (memory : Memory) : Prop where
  /-- The objects that carry a tag. -/
  resolve (tag : String) :
    (client.resolve tag).run.Settles handler good (· = .ok (memory.carrying tag))
  /-- The name of a machine. -/
  name {object : ObjectRef} {number : Nat} {name : String} :
    memory.find? object = some (number, name) →
      (client.name object).run.Settles handler good (· = .ok name)
  /-- The identity of a machine. -/
  uuid {object : ObjectRef} {number : Nat} {name : String} :
    memory.find? object = some (number, name) →
      (client.uuid object).run.Settles handler good (· = .ok (Memory.uuidOf number))

/-- The members of a group in an inventory. -/
def membersIn (cluster group : String) (memory : Memory) : RefSet :=
  (memory.carrying (clusterTag cluster)).intersect (memory.carrying (groupTag group))

/-- The name of a machine in an inventory. -/
def nameIn (memory : Memory) (object : ObjectRef) : String :=
  ((memory.find? object).map (·.2)).getD ""

/-- The identity of a machine in an inventory. -/
def uuidIn (memory : Memory) (object : ObjectRef) : String :=
  ((memory.find? object).map fun (number, _) => Memory.uuidOf number).getD ""

/-- Lookups in an inventory in memory settle on what it holds. -/
theorem memory_views (memory : Memory) : Views Memory.client Memory.answer (· = memory) memory where
  resolve tag := by
    constructor
    · rintro state rfl
      rfl
    · rintro state rfl
      exact .done rfl
  name found := by
    constructor
    · rintro state rfl
      simp only [Memory.answer, found]
    · rintro state rfl
      simp only [Memory.answer, found]
      exact .done rfl
  uuid found := by
    constructor
    · rintro state rfl
      simp only [Memory.answer, found]
    · rintro state rfl
      simp only [Memory.answer, found]
      exact .done rfl

/-- The members of a group are seen. -/
theorem members_settles (views : Views client handler good memory) (cloning : Cloning)
    (group : String) :
    ((cloning.membership client).members group).run.Settles handler good
      (· = .ok (membersIn cloning.cluster group memory)) := by
  have carriers (tag : String) : ((cloning.membership client).carriers tag).run.Settles handler good
      (· = .ok (memory.carrying tag)) := (views.resolve tag).mapError _
  have both : (((cloning.membership client).carriers (clusterTag cloning.cluster)).both
      ((cloning.membership client).carriers (groupTag group))).run.Settles handler good
        (· = .ok (memory.carrying (clusterTag cloning.cluster),
          memory.carrying (groupTag group))) :=
    Plan.Settles.both (carriers _) (carriers _)
  refine Plan.Settles.attempt both ?_
  exact .done rfl

/-- Members of groups are machines. -/
theorem find?_of_mem (sound : memory.Sound) {cluster group : String} {object : ObjectRef}
    (isMember : object ∈ (membersIn cluster group memory).members) :
    ∃ number name, memory.find? object = some (number, name) := by
  have carries : object ∈ memory.carrying (clusterTag cluster) :=
    (RefSet.mem_intersect.1 isMember).1
  obtain ⟨⟨number, name⟩, found⟩ :=
    Option.isSome_iff_exists.1 (Memory.find?_isSome_iff.2 (sound _ _ carries))
  exact ⟨number, name, found⟩

/-- The size of a group is seen. -/
theorem count_settles (views : Views client handler good memory) (cloning : Cloning)
    (group : String) :
    ((cloning.membership client).count group).run.Settles handler good
      (· = .ok (memory.live cloning.cluster group % Nat.pow 2 32)) := by
  refine Plan.Settles.attempt (members_settles views cloning group) ?_
  exact .done rfl

/-- The names of the members of a group are seen. -/
theorem names_settles (views : Views client handler good memory) (sound : memory.Sound)
    (cloning : Cloning) (group : String) :
    (cloning.names client group).run.Settles handler good
      (· = .ok ((membersIn cloning.cluster group memory).members.map (nameIn memory))) := by
  refine Plan.Settles.attempt (members_settles views cloning group) ?_
  apply Plan.Settles.mapM
  intro object isMember
  obtain ⟨number, name, found⟩ := find?_of_mem sound isMember
  have isName : nameIn memory object = name := by simp [nameIn, found]
  rw [isName]
  exact (views.name found).mapError _

/-- The provider identifiers of the members of a group are seen. -/
theorem nodes_settles (views : Views client handler good memory) (sound : memory.Sound)
    (cloning : Cloning) (group : String) :
    (cloning.nodes client group).run.Settles handler good
      (· = .ok (((membersIn cloning.cluster group memory).members.map (uuidIn memory)).map
        providerId)) := by
  refine Plan.Settles.attempt (members_settles views cloning group) ?_
  have identities : (each client.uuid (membersIn cloning.cluster group memory).members).run.Settles
      handler good
        (· = .ok ((membersIn cloning.cluster group memory).members.map (uuidIn memory))) := by
    apply Plan.Settles.mapM
    intro object isMember
    obtain ⟨number, name, found⟩ := find?_of_mem sound isMember
    have isUuid : uuidIn memory object = Memory.uuidOf number := by simp [uuidIn, found]
    rw [isUuid]
    exact (views.uuid found).mapError _
  refine Plan.Settles.attempt identities ?_
  exact .done rfl

end NodeScaler.Cloning
