import NodeScaler.Plan.Basic
import NodeScaler.Provider.Error

/-!
# Provisioners

A provisioner does the work behind node groups: it counts the members of a group, makes
machines for it, and reads out the provider identifiers and the names of its members.
-/

namespace NodeScaler

/-- The work behind node groups. Groups are given by name. -/
structure Provisioner (I : Interface) where
  /-- The number of members of a group. -/
  size : String → Attempt I ProviderError Nat
  /-- Makes so many machines for a group. A failure other than a partial provisioning
  means that none was attempted. -/
  create : String → Nat → Attempt I ProviderError Unit
  /-- The provider identifiers of the members of a group. -/
  nodes : String → Attempt I ProviderError (List String)
  /-- The names of the members of a group. -/
  names : String → Attempt I ProviderError (List String)

end NodeScaler
