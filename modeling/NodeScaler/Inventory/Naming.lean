import NodeScaler.Inventory.Object

/-!
# Names that tie objects to node groups

A machine belongs to a node group of a cluster when it carries two tags, one for the
cluster and one for the group. The node that runs on it is known to the cluster by a
provider identifier built from the machine's BIOS UUID, in lower case.
-/

namespace NodeScaler

/-- The tag of the machines of a cluster. -/
def clusterTag (cluster : String) : String := "k8s-cluster-" ++ cluster

/-- The tag of the machines of a node group. -/
def groupTag (group : String) : String := "k8s-nodegroup-" ++ group

/-- The provider identifier of the node on the machine with a BIOS UUID. Only the
letters A to Z have a lower case here. -/
def providerId (uuid : String) : String := "vsphere://" ++ uuid.map Char.toLower

end NodeScaler
