import NodeScaler.Inventory.Error
import NodeScaler.Inventory.Object
import NodeScaler.Plan.Basic

/-!
# Clients of the inventory

A client finds the objects that carry a tag, attaches a tag to an object, reads the name
and the BIOS UUID of a machine, and clones a template into a new machine. Each of these is
an attempt over an interface of the client's own: a server, an inventory in memory, or
anything else that answers.
-/

namespace NodeScaler

/-- What a new machine is made from. -/
structure CloneRequest where
  /-- The name of the template. -/
  template : String
  /-- The name of the datacenter; empty for the only one. -/
  datacenter : String
  /-- The name of the resource pool; empty for the only one. -/
  resourcePool : String
  /-- The name of the new machine. -/
  name : String
deriving DecidableEq, Repr

/-- Access to an inventory. -/
structure InventoryClient (I : Interface) where
  /-- The objects that carry a tag; none when there is no such tag. -/
  resolve : String → Attempt I InventoryError RefSet
  /-- Attaches a tag to an object. -/
  attach : String → ObjectRef → Attempt I InventoryError Unit
  /-- The name of a machine. -/
  name : ObjectRef → Attempt I InventoryError String
  /-- The BIOS UUID of a machine. -/
  uuid : ObjectRef → Attempt I InventoryError String
  /-- Makes a machine from a template. -/
  clone : CloneRequest → Attempt I InventoryError ObjectRef

end NodeScaler
