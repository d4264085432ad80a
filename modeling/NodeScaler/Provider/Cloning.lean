import NodeScaler.Config.Cluster
import NodeScaler.Provider.Membership
import NodeScaler.Provider.Provisioner
import NodeScaler.Text.Integer

/-!
# Making machines by cloning

New machines of a node group are clones of one template. They are named
`<cluster>-<group>-<number>`, with numbers above all that members of the group bear, and
each is tagged for its cluster and its group when it is there. A machine that misses a tag
does not belong to the group, so it counts as a failure, and it keeps its name. Such names
are found out when a clone is refused: up to 32 of them are passed over in one call. Other
failures are collected and the remaining machines are still made.

Numbers have 64 bits and are counted on modulo 2 ^ 64, so that the number after the greatest one
is zero. This is what a build without overflow checks does. A build with them panics instead when
the greatest number would be counted on, before it is tried; that end of a call is not modelled.
-/

namespace NodeScaler

/-- How machines of a cluster are made. -/
structure Cloning where
  /-- The name of the cluster. -/
  cluster : String
  /-- The template. -/
  template : String
  /-- The datacenter; empty for the only one. -/
  datacenter : String
  /-- The resource pool; empty for the only one. -/
  resourcePool : String
  /-- The time one clone may take. -/
  cloneTimeout : Duration
deriving DecidableEq, Repr

/-- What a configuration says about machines. -/
def Cluster.cloning (cluster : Cluster) : Cloning where
  cluster := cluster.name
  template := cluster.template
  datacenter := cluster.datacenter
  resourcePool := cluster.resourcePool
  cloneTimeout := cluster.cloneTimeout

namespace Cloning

variable {I : Interface}

/-! ## Names -/

/-- What the names of a group's machines begin with. -/
def stem (cluster group : String) : String := cluster ++ "-" ++ group ++ "-"

/-- The name of a machine. -/
def machineName (cluster group : String) (number : Nat) : String :=
  stem cluster group ++ toString number

/-- The number in a name with the given beginning: what follows is an unsigned integer of
64 bits. -/
def numberAfter? (start name : String) : Option Nat :=
  (start.toList.isPrefixOf? name.toList).bind (Text.readUnsigned? 64)

/-- The number after a number of 64 bits, modulo 2 ^ 64. -/
def following (number : Nat) : Nat := (number + 1) % Nat.pow 2 64

/-- The greatest number that a name bears, or the number of names if that is greater. -/
def lastNumber (start : String) (names : List String) : Nat :=
  max ((names.filterMap (numberAfter? start)).foldl max 0) names.length

/-- The first number for new machines. Unless it is zero, it is above every number that a name
bears, and above the number of names. -/
def nextNumber (start : String) (names : List String) : Nat := following (lastNumber start names)

/-! ## Machines -/

/-- The greatest number of taken names that one call passes over. -/
def mostCollisions : Nat := 32

/-- Attaches tags to a machine, one after the other, up to the first failure. -/
def tag (client : InventoryClient I) (object : ObjectRef) :
    List String → Attempt I InventoryError Unit
  | [] => return ()
  | first :: rest => do
    client.attach first object
    tag client object rest

/-- The request for a machine of a name. -/
def request (cloning : Cloning) (name : String) : CloneRequest where
  template := cloning.template
  datacenter := cloning.datacenter
  resourcePool := cloning.resourcePool
  name := name

/-- Makes one machine and tags it for its group. -/
def make (cloning : Cloning) (client : InventoryClient I) (group name : String) :
    Attempt I InventoryError Unit := do
  let object ← (client.clone (cloning.request name)).within cloning.cloneTimeout
    (.timeout cloning.cloneTimeout)
  tag client object [clusterTag cloning.cluster, groupTag group]

/-- An attempt at a machine that counts. -/
structure Outcome where
  /-- The number in the machine's name. -/
  number : Nat
  /-- How the attempt ended. -/
  result : Except InventoryError Unit
  /-- The taken names that may still be passed over. -/
  collisions : Nat

/-- Makes one machine, numbered from `number` on, passing over at most `collisions` names
that are taken. -/
def makeNext (cloning : Cloning) (client : InventoryClient I) (group : String) :
    (collisions number : Nat) → Plan I Outcome
  | 0, number => do
    let result ← (cloning.make client group (machineName cloning.cluster group number)).run
    return ⟨number, result, 0⟩
  | collisions + 1, number => do
    let result ← (cloning.make client group (machineName cloning.cluster group number)).run
    match result with
    | .error (.alreadyExists _) => cloning.makeNext client group collisions (following number)
    | _ => return ⟨number, result, collisions + 1⟩

/-- What a call has come to. -/
structure Account where
  /-- The number of machines made. -/
  created : Nat
  /-- The failures, each with the name of the machine. -/
  failures : List String
deriving DecidableEq, Repr

/-- The account with one more outcome in front. -/
def Account.add (cloning : Cloning) (group : String) (outcome : Outcome) (later : Account) :
    Account :=
  match outcome.result with
  | .ok _ => { later with created := later.created + 1 }
  | .error error =>
    { later with
      failures := (machineName cloning.cluster group outcome.number ++ ": " ++ error.message) ::
        later.failures }

/-- Makes `count` machines, numbered from `number` on. -/
def makeAll (cloning : Cloning) (client : InventoryClient I) (group : String) :
    (count collisions number : Nat) → Plan I Account
  | 0, _, _ => return ⟨0, []⟩
  | count + 1, collisions, number => do
    let outcome ← cloning.makeNext client group collisions number
    let later ← cloning.makeAll client group count outcome.collisions (following outcome.number)
    return later.add cloning group outcome

/-- How a call ends: well, if no machine failed. -/
def Account.result (requested : Nat) (account : Account) : Except ProviderError Unit :=
  if account.failures.isEmpty then .ok ()
  else .error (.partialProvisioning requested account.created account.failures)

/-! ## The provisioner -/

/-- The membership of the cluster. -/
def membership (cloning : Cloning) (client : InventoryClient I) : Membership I :=
  ⟨client, cloning.cluster⟩

/-- Looks up something about each object, in order, up to the first failure. -/
def each {α : Type} (read : ObjectRef → Attempt I InventoryError α) (objects : List ObjectRef) :
    Attempt I ProviderError (List α) :=
  objects.mapM fun object => (read object).mapError .inventory

/-- The names of the members of a group. -/
def names (cloning : Cloning) (client : InventoryClient I) (group : String) :
    Attempt I ProviderError (List String) := do
  let members ← (cloning.membership client).members group
  each client.name members.members

/-- The provider identifiers of the members of a group. -/
def nodes (cloning : Cloning) (client : InventoryClient I) (group : String) :
    Attempt I ProviderError (List String) := do
  let members ← (cloning.membership client).members group
  return (← each client.uuid members.members).map providerId

/-- Makes `count` machines for a group. -/
def create (cloning : Cloning) (client : InventoryClient I) (group : String) (count : Nat) :
    Attempt I ProviderError Unit := do
  let existing ← cloning.names client group
  let first := nextNumber (stem cloning.cluster group) existing
  .mk ((Account.result count ·) <$> cloning.makeAll client group count mostCollisions first)

/-- The provisioner that clones machines in an inventory. -/
def provisioner (cloning : Cloning) (client : InventoryClient I) : Provisioner I where
  size := (cloning.membership client).count
  create := cloning.create client
  nodes := cloning.nodes client
  names := cloning.names client

end Cloning

end NodeScaler
