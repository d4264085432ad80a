import NodeScaler.Inventory.Client
import NodeScaler.Inventory.Naming
import NodeScaler.Provider.Error

/-!
# Members of a node group

A machine is a member of a node group of a cluster when it carries both the tag of the
cluster and the tag of the group. Nothing is remembered: both tags are looked up for every
question, side by side, and the first failure of a lookup is reported, never taken for an
empty group.

Sets of references are kept as ascending lists, so what two of them share needs no sorting.
`Membership.shared` finds it in sets that are read out in no order, with the same outcome.
-/

namespace NodeScaler

/-- Knows the machines of the node groups of one cluster. -/
structure Membership (I : Interface) where
  /-- Access to the inventory. -/
  client : InventoryClient I
  /-- The name of the cluster. -/
  cluster : String

namespace Membership

variable {I : Interface}

/-- The objects that carry a tag. -/
def carriers (membership : Membership I) (tag : String) : Attempt I ProviderError RefSet :=
  (membership.client.resolve tag).mapError .inventory

/-- The references that two sets share, sorted. The sets are read out as lists, each of its references
once and in any order. The shorter list is gone through, and the other one is only searched. -/
def shared (first second : List ObjectRef) : List ObjectRef :=
  let (small, large) := if first.length ≤ second.length then (first, second) else (second, first)
  (small.filter (large.contains ·)).mergeSort ObjectRef.isUpTo

/-- The members of a node group. -/
def members (membership : Membership I) (group : String) : Attempt I ProviderError RefSet := do
  let (inCluster, inGroup) ← (membership.carriers (clusterTag membership.cluster)).both
    (membership.carriers (groupTag group))
  return inCluster.intersect inGroup

/-- The number of members of a node group, in 32 bits. -/
def count (membership : Membership I) (group : String) : Attempt I ProviderError Nat := do
  return (← membership.members group).members.length % Nat.pow 2 32

end Membership

end NodeScaler
