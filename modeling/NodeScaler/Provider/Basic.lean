import NodeScaler.Provider.NodeGroup

/-!
# Providers

A provider is what an autoscaler holds on to: the node groups, and bounds on resources that
it only hands on. Nodes of the control plane belong to no group, all others to the first one.
-/

namespace NodeScaler

/-- Bounds on resources. -/
structure ResourceLimits where
  /-- The lower bounds that are set. -/
  minimum : List (String × Int)
  /-- The upper bounds that are set. -/
  maximum : List (String × Int)
deriving DecidableEq, Repr

namespace ResourceLimits

/-- No bound is set. -/
def none : ResourceLimits := ⟨[], []⟩

/-- The lower bound of a resource. -/
def min (limits : ResourceLimits) (resource : String) : Int :=
  (limits.minimum.lookup resource).getD 0

/-- The upper bound of a resource; without one, the greatest number of 64 bits. -/
def max (limits : ResourceLimits) (resource : String) : Int :=
  (limits.maximum.lookup resource).getD 9223372036854775807

end ResourceLimits

/-- A node of the cluster. -/
structure Node where
  /-- Its name. -/
  name : String
  /-- The provider identifier of its machine. -/
  providerId : String
  /-- Its labels. -/
  labels : List (String × String)
deriving DecidableEq, Repr

/-- The node is part of the control plane: it bears one of two labels, of any value. -/
def Node.isControlPlane (node : Node) : Bool :=
  node.labels.any fun (label, _) =>
    label == "node-role.kubernetes.io/master" || label == "node-role.kubernetes.io/control-plane"

/-- What an autoscaler holds on to. -/
structure Provider where
  /-- Bounds on resources. -/
  limits : ResourceLimits
  /-- The node groups. -/
  groups : List NodeGroup
deriving DecidableEq, Repr

namespace Provider

variable {I : Interface}

/-- The name of this provider. -/
def name : String := "vsphere"

/-- The label of nodes with graphics processors; there is none. -/
def gpuLabel : String := ""

/-- The types of graphics processors; there are none. -/
def gpuTypes : List String := []

/-- A provider without node groups. -/
def empty (limits : ResourceLimits) : Provider := ⟨limits, []⟩

/-- The provider with one more node group. -/
def add (group : NodeGroup) (provider : Provider) : Provider :=
  { provider with groups := provider.groups ++ [group] }

/-- The node group of a node. -/
def groupOf? (provider : Provider) (node : Node) : Option NodeGroup :=
  if node.isControlPlane then none else provider.groups.head?

/-- The provider of one node group, with the number of its members as its target. -/
def discover (provisioner : Provisioner I) (spec : GroupSpec) (limits : ResourceLimits) :
    Attempt (Targets.sum I) ProviderError Provider := do
  return (empty limits).add (← NodeGroup.discover provisioner spec)

/-- Prices are not offered. -/
def pricing (_ : Provider) : Except ProviderError Unit := .error .notImplemented

/-- A list of machine types is not offered. -/
def machineTypes (_ : Provider) : Except ProviderError (List String) := .error .notImplemented

/-- Making another node group is not offered. -/
def newGroup (_ : Provider) : Except ProviderError NodeGroup := .error .notImplemented

/-- There is nothing to refresh. -/
def refresh (_ : Provider) : Except ProviderError Unit := .ok ()

/-- There is nothing to clean up. -/
def cleanup (_ : Provider) : Except ProviderError Unit := .ok ()

end Provider

end NodeScaler
