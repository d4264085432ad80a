import Mathlib.Data.List.Nodup
import NodeScaler.Proofs.Inventory.Carried
import NodeScaler.Proofs.Inventory.Identity
import NodeScaler.Proofs.Plan.Giving
import NodeScaler.Proofs.Provider.Viewing

/-!
# What is told of the members of a group

Over an inventory in memory, the size of a group, the provider identifiers and the names of its
members are three views of one list: the machines that carry both tags, in ascending order. Machines
may share a name, but no two of them have the same provider identifier.
-/

namespace NodeScaler.Cloning

variable {memory : Memory} {cluster group : String}

/-- Two lists of texts tell of the members of a group, one by their provider identifiers and the
other by their names. -/
structure Roster (cluster group : String) (memory : Memory) (members : List ObjectRef)
    (identifiers names : List String) : Prop where
  /-- The members are in ascending order. -/
  ascending : members.Pairwise (· < ·)
  /-- The members are the objects that carry both tags. -/
  mem {object : ObjectRef} : object ∈ members ↔
    clusterTag cluster ∈ memory.tagsOf object ∧ groupTag group ∈ memory.tagsOf object
  /-- There is one provider identifier for each member. -/
  identifiers_length : identifiers.length = members.length
  /-- There is one name for each member. -/
  names_length : names.length = members.length
  /-- The identifier at a place is that of the member at this place. -/
  identifier {place : Nat} {object : ObjectRef} : members[place]? = some object →
    ∃ uuid, (Memory.answer (.uuid object) memory).1 = .ok uuid ∧
      identifiers[place]? = some (providerId uuid)
  /-- The name at a place is that of the member at this place. -/
  name {place : Nat} {object : ObjectRef} : members[place]? = some object →
    ∃ name, (Memory.answer (.name object) memory).1 = .ok name ∧ names[place]? = some name
  /-- No identifier occurs twice. -/
  distinct : identifiers.Nodup
  /-- Every identifier is a provider identifier in small letters. -/
  identifiers_small : ∀ identifier ∈ identifiers, IsProviderId identifier

/-- The BIOS UUID of a member ends with its number. -/
theorem uuidIn_member (sound : memory.Sound) {object : ObjectRef}
    (isMember : object ∈ (membersIn cluster group memory).members) :
    ∃ number, object = Memory.machine number ∧ uuidIn memory object = Memory.uuidOf number := by
  obtain ⟨number, name, found⟩ := find?_of_mem sound isMember
  obtain ⟨index, -, isMachine, rfl⟩ := Memory.index_of_find? found
  exact ⟨index + 1, isMachine, by simp [uuidIn, found]⟩

/-- Members have different provider identifiers, because they have different numbers. -/
theorem identifiers_nodup (sound : memory.Sound) (cluster group : String) :
    (((membersIn cluster group memory).members.map (uuidIn memory)).map providerId).Nodup := by
  rw [List.map_map]
  refine List.Nodup.map_on (fun first isFirst second isSecond same => ?_)
    (membersIn cluster group memory).nodup
  obtain ⟨number, rfl, isUuid⟩ := uuidIn_member sound isFirst
  obtain ⟨other, rfl, isOther⟩ := uuidIn_member sound isSecond
  rw [Function.comp_apply, Function.comp_apply, isUuid, isOther] at same
  rw [Memory.providerId_injective same]

/-- What is told of the members of a group is its roster. -/
theorem roster_members (reachable : memory.Reachable) (cluster group : String) :
    let members := (membersIn cluster group memory).members
    Roster cluster group memory members ((members.map (uuidIn memory)).map providerId)
      (members.map (nameIn memory)) := by
  intro members
  have sound := reachable.sound
  constructor
  case ascending => exact (membersIn cluster group memory).ascending
  case mem =>
    intro object
    rw [Memory.mem_tagsOf reachable.distinct, Memory.mem_tagsOf reachable.distinct]
    exact RefSet.mem_intersect
  case identifiers_length => rw [List.length_map, List.length_map]
  case names_length => rw [List.length_map]
  case identifier =>
    intro place object isAt
    obtain ⟨number, name, found⟩ := find?_of_mem sound (List.mem_of_getElem? isAt)
    refine ⟨Memory.uuidOf number, by simp only [Memory.answer, found], ?_⟩
    have isUuid : uuidIn memory object = Memory.uuidOf number := by simp [uuidIn, found]
    rw [List.map_map, List.getElem?_map, isAt, ← isUuid]
    rfl
  case name =>
    intro place object isAt
    obtain ⟨number, name, found⟩ := find?_of_mem sound (List.mem_of_getElem? isAt)
    refine ⟨name, by simp only [Memory.answer, found], ?_⟩
    have isName : nameIn memory object = name := by simp [nameIn, found]
    rw [List.getElem?_map, isAt, ← isName]
    rfl
  case distinct => exact identifiers_nodup sound cluster group
  case identifiers_small =>
    intro identifier isIn
    obtain ⟨uuid, isUuid, rfl⟩ := List.mem_map.1 isIn
    obtain ⟨object, isMember, rfl⟩ := List.mem_map.1 isUuid
    obtain ⟨number, -, isNumber⟩ := uuidIn_member sound isMember
    rw [isNumber]
    exact Memory.isProviderId_uuidOf number

/-- **One roster.** Whatever has happened to an inventory, and whatever group is asked for, its size,
the provider identifiers and the names of its members are all told, leave the inventory as it is,
and agree with each other and with the tags that objects carry. -/
theorem views_agree (reachable : memory.Reachable) (cloning : Cloning) (group : String)
    (few : memory.live cloning.cluster group < Nat.pow 2 32) :
    let provisioner := cloning.provisioner Memory.client
    ∃ members identifiers names,
      (provisioner.size group).run.Gives Memory.answer memory (.ok members.length) memory ∧
      (provisioner.nodes group).run.Gives Memory.answer memory (.ok identifiers) memory ∧
      (provisioner.names group).run.Gives Memory.answer memory (.ok names) memory ∧
      Roster cloning.cluster group memory members identifiers names := by
  intro provisioner
  have views := memory_views memory
  have size := (count_settles views cloning group).gives
  rw [Nat.mod_eq_of_lt few] at size
  exact ⟨_, _, _, size, (nodes_settles views reachable.sound cloning group).gives,
    (names_settles views reachable.sound cloning group).gives,
    roster_members reachable cloning.cluster group⟩

/-- An inventory with nine machines of no group, two machines of one name that belong to a group, and
a clone that has got one of two tags. -/
def crowded : Memory :=
  let tags := [clusterTag "prod", groupTag "workers"]
  let spares := (List.replicate 9 "spare").foldl (fun memory name => (memory.addMachine name []).2)
    Memory.empty
  let twins := ((spares.addMachine "twin" tags).2.addMachine "twin" tags.reverse).2
  let cloned := (Memory.answer (.finishClone ⟨"template", "", "", "prod-workers-1"⟩) twins).2
  (Memory.answer (.attach (groupTag "workers") (Memory.machine 12)) cloned).2

/-- The two machines of one name are the members of the group, with provider identifiers of their
own. -/
theorem crowded_agree :
    let cloning : Cloning := ⟨"prod", "template", "", "", .zero⟩
    let provisioner := cloning.provisioner Memory.client
    crowded.Reachable ∧ crowded.live "prod" "workers" < Nat.pow 2 32 ∧
      crowded.carrying (groupTag "workers") ≠ crowded.carrying (clusterTag "prod") ∧
      (provisioner.nodes "workers").run.Gives Memory.answer crowded
        (.ok ["vsphere://4237a000-0000-4000-8000-00000000000a",
          "vsphere://4237a000-0000-4000-8000-00000000000b"]) crowded ∧
      ∃ members, Roster "prod" "workers" crowded members
        ["vsphere://4237a000-0000-4000-8000-00000000000a",
          "vsphere://4237a000-0000-4000-8000-00000000000b"] ["twin", "twin"] := by
  intro cloning provisioner
  have spares : ((List.replicate 9 "spare").foldl (fun memory name => (memory.addMachine name []).2)
      Memory.empty).Reachable :=
    List.foldlRecOn _ _ .refl fun memory reachable name _ => reachable.tail (.addMachine name [] memory)
  have reachable : crowded.Reachable :=
    (((spares.tail (.addMachine _ _ _)).tail (.addMachine _ _ _)).tail (.answer _ _)).tail
      (.answer _ _)
  have few : crowded.live "prod" "workers" < Nat.pow 2 32 := by decide +kernel
  have nodes : (provisioner.nodes "workers").run.Gives Memory.answer crowded
      (.ok ["vsphere://4237a000-0000-4000-8000-00000000000a",
        "vsphere://4237a000-0000-4000-8000-00000000000b"]) crowded := by
    constructor <;> decide +kernel
  have names : (provisioner.names "workers").run.Gives Memory.answer crowded
      (.ok ["twin", "twin"]) crowded := by
    constructor <;> decide +kernel
  obtain ⟨members, identifiers, others, -, givesNodes, givesNames, roster⟩ :=
    views_agree reachable cloning "workers" few
  cases (givesNodes.unique nodes).1
  cases (givesNames.unique names).1
  exact ⟨reachable, few, by decide +kernel, nodes, members, roster⟩

end NodeScaler.Cloning
