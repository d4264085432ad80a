import NodeScaler.Config.GroupSpec
import NodeScaler.Plan.Concurrent
import NodeScaler.Provider.Provisioner

/-!
# Node groups

A node group has a name, bounds, and a target size. The target is kept in a cell of its
own, because callers read it at any time while a resize is going on. Resizes of all groups
that share a lock exclude each other: a resize holds the lock from before its first look at
the group until its outcome is known and written down.

The bound is checked against the number of members that the provisioner reports. The target
is raised by what was asked for, and corrected to what was made if some of it failed; it
never passes the greatest size by a resize.
-/

namespace NodeScaler

/-! ## Cells for targets -/

/-- What is asked about targets. -/
inductive TargetRequest where
  /-- To make a cell that holds a target; the answer says which it is. -/
  | create (size : Nat)
  /-- The target in a cell. -/
  | read (cell : Nat)
  /-- To put another target into a cell. -/
  | write (cell size : Nat)
deriving DecidableEq, Repr

/-- The cells in which targets are kept. -/
abbrev Targets : Interface where
  Question := TargetRequest
  Answer
    | .create _ => Nat
    | .read _ => Nat
    | .write _ _ => Unit

/-- Cells as a list of their targets, numbered from zero. -/
def Targets.answer : Handler Targets (List Nat)
  | .create size, cells => (cells.length, cells ++ [size])
  | .read cell, cells => (cells.getD cell 0, cells)
  | .write cell size, cells => ((), cells.set cell size)

/-- The lock, the targets, and the questions of a provisioner. -/
abbrev Resizing (I : Interface) : Interface := Locking.sum (Targets.sum I)

/-! ## Groups -/

/-- A node group. -/
structure NodeGroup where
  /-- Its name and bounds. -/
  spec : GroupSpec
  /-- The cell of its target. -/
  cell : Nat
deriving DecidableEq, Repr

/-- The number of machines that were made before a failure, as far as it is known. -/
def ProviderError.created : ProviderError → Nat
  | .partialProvisioning _ created _ => created
  | _ => 0

namespace NodeGroup

variable {I : Interface} {α : Type}

/-- A node group with a given target. -/
def new (spec : GroupSpec) (target : Nat) : Plan (Targets.sum I) NodeGroup := do
  return ⟨spec, ← Plan.left (Plan.question (I := Targets) (.create target))⟩

/-- A node group whose target is the number of its members. -/
def discover (provisioner : Provisioner I) (spec : GroupSpec) :
    Attempt (Targets.sum I) ProviderError NodeGroup := do
  let size ← (provisioner.size spec.name).right
  ExceptT.lift (new spec size)

/-- The target. -/
def target (group : NodeGroup) : Plan (Targets.sum I) Nat :=
  Plan.left (Plan.question (I := Targets) (.read group.cell))

/-- Sets the target. -/
def setTarget (group : NodeGroup) (size : Nat) : Plan (Targets.sum I) Unit :=
  Plan.left (Plan.question (I := Targets) (.write group.cell size))

/-- The members, by their provider identifiers. -/
def nodes (group : NodeGroup) (provisioner : Provisioner I) :
    Attempt I ProviderError (List String) := provisioner.nodes group.spec.name

/-- Holds the lock while the plan runs. -/
def locked (plan : Plan I α) : Plan (Locking.sum I) α := do
  Plan.left (Plan.question (I := Locking) .acquire)
  let value ← plan.right
  Plan.left (Plan.question (I := Locking) .release)
  return value

/-- A resize by `delta`, which needs the lock. -/
def resize (group : NodeGroup) (provisioner : Provisioner I) (delta : Int) :
    Attempt (Targets.sum I) ProviderError Unit := do
  if delta ≤ 0 then throw (.invalidArgument "node group size increase must be positive")
  let more := delta.toNat
  let size ← (provisioner.size group.spec.name).right
  if group.spec.maxSize < size + more then
    throw (.sizeLimitExceeded (size + more) group.spec.maxSize)
  let previous ← ExceptT.lift group.target
  ExceptT.lift (group.setTarget (min (previous + more) group.spec.maxSize))
  match ← (provisioner.create group.spec.name more).right.result with
  | .ok () => return ()
  | .error error =>
    ExceptT.lift (group.setTarget (min (previous + error.created) group.spec.maxSize))
    throw error

/-- Makes `delta` more machines for the group. -/
def increase (group : NodeGroup) (provisioner : Provisioner I) (delta : Int) :
    Attempt (Resizing I) ProviderError Unit :=
  .mk (locked (group.resize provisioner delta).run)

/-- The group in words, with its target. -/
def text (group : NodeGroup) (target : Nat) : String :=
  s!"{group.spec.name} (min: {group.spec.minSize}, max: {group.spec.maxSize}, target: {target})"

/-! ## What node groups do not offer -/

/-- Taking back machines that were asked for is not offered. -/
def decrease (_ : NodeGroup) (_ : Int) : Except ProviderError Unit := .error .notImplemented

/-- Removing members is not offered. -/
def deleteNodes (_ : NodeGroup) (_ : List String) : Except ProviderError Unit :=
  .error .notImplemented

/-- A group exists from the start, so it cannot be created. -/
def create (_ : NodeGroup) : Except ProviderError NodeGroup := .error .alreadyExists

/-- Removing the group is not offered. -/
def delete (_ : NodeGroup) : Except ProviderError Unit := .error .notImplemented

/-- Every group exists. -/
def doesExist (_ : NodeGroup) : Bool := true

/-- No group was made by the autoscaler itself. -/
def isAutoprovisioned (_ : NodeGroup) : Bool := false

end NodeGroup

end NodeScaler
