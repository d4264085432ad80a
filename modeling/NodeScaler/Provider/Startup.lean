import NodeScaler.Config.Backend
import NodeScaler.Provider.Basic
import NodeScaler.Provider.Cloning
import NodeScaler.Vcenter.Machine

/-!
# Starting up

The configuration is completed first: the cloud config and the cluster name, then the one
discovery string, then the backend. Only when all of it is in order is anything sent. The
login is the first request, and the rest of starting up only reads.
-/

namespace NodeScaler

/-- What is given at the start. -/
structure StartOptions where
  /-- The file named as the cloud config. -/
  config : Option CloudConfig
  /-- The cluster name for a cloud config that has none. -/
  clusterName : Option String
  /-- The discovery strings. -/
  specs : List String
  /-- The setting in the environment that selects the backend. -/
  backend : Option (List UInt8)
  /-- Bounds on resources. -/
  limits : ResourceLimits

/-- What is in order before anything is sent. -/
structure StartPlan where
  /-- The cluster. -/
  cluster : Cluster
  /-- The node group. -/
  spec : GroupSpec
  /-- The backend. -/
  backend : Backend
deriving DecidableEq, Repr

/-- A provider with the provisioner behind it. -/
structure Running where
  /-- The provider. -/
  provider : Provider
  /-- The provisioner of its node groups. -/
  provisioner : Provisioner Http

namespace StartOptions

/-- Checks what is given. -/
def check (options : StartOptions) : Except ConfigError StartPlan := do
  let cluster ← Cluster.load options.config options.clusterName
  let spec ← GroupSpec.single options.specs
  let backend ← Backend.ofSetting options.backend
  return ⟨cluster, spec, backend⟩

/-- Logs in to the platform of a cluster. -/
def connect (cluster : Cluster) : Attempt Http InventoryError Vcenter.Session :=
  Vcenter.login ("https://" ++ cluster.server) cluster.user cluster.password cluster.insecure
    cluster.apiTimeout

/-- The provisioner of a cluster over a backend. -/
def provisioner (cluster : Cluster) : Backend → Attempt Http ProviderError (Provisioner Http)
  | .rest => do
    let session ← (connect cluster).mapError .inventory
    return cluster.cloning.provisioner session.client

/-- Starts up: checks what is given, logs in, and finds the size of the node group. -/
def start (options : StartOptions) : Attempt (Targets.sum Http) ProviderError Running := do
  let plan ← ExceptT.mk (pure (options.check.mapError .config))
  let provisioner ← (provisioner plan.cluster plan.backend).right
  let provider ← Provider.discover provisioner plan.spec options.limits
  return ⟨provider, provisioner⟩

end StartOptions

end NodeScaler
