import NodeScaler.Config.ClusterFile
import NodeScaler.Text.Blank
import NodeScaler.Text.Duration

/-!
# The configuration of a cluster

The file's settings are completed with defaults and checked. The names of the cluster,
the server, the user and the template, and the password, must have something beside
blanks, and lose the blanks around it; the file's cluster name wins over the one given
as an option. The first of them that is missing is reported. Datacenter and resource pool
are taken as they are, and empty ones stand for the only one there is.
-/

namespace NodeScaler

/-- A checked configuration. -/
structure Cluster where
  /-- The name of the cluster. -/
  name : String
  /-- The host of the platform, with a port if need be. -/
  server : String
  /-- The user to log in as. -/
  user : String
  /-- The password of the user. -/
  password : String
  /-- Certificates are not verified. -/
  insecure : Bool
  /-- The datacenter; empty for the only one of the inventory. -/
  datacenter : String
  /-- The resource pool; empty for the only one of the datacenter. -/
  resourcePool : String
  /-- The template for new machines. -/
  template : String
  /-- The time one clone may take. -/
  cloneTimeout : Duration
  /-- The time any other request may take. -/
  apiTimeout : Duration
deriving DecidableEq, Repr

/-- A file that was named as the cloud config: its path, and its bytes unless they cannot
be had. -/
structure CloudConfig where
  /-- The path, as it was given. -/
  path : String
  /-- The contents. -/
  bytes : Except FileFailure (List UInt8)

/-- The settings in a file. -/
def CloudConfig.read (config : CloudConfig) : Except ConfigError ClusterFile :=
  match config.bytes with
  | .error failure => .error (.unreadable config.path failure)
  | .ok bytes =>
    match String.fromUTF8? ⟨bytes.toArray⟩ with
    | none => .error (.unreadable config.path .notText)
    | some text => ClusterFile.parse text

namespace Cluster

/-- The time one clone may take, unless the file says otherwise. -/
def defaultCloneTimeout : Nat := 600

/-- The time any other request may take, unless the file says otherwise. -/
def defaultApiTimeout : Nat := 30

/-- The text of a required setting without the blanks around it. -/
def required (key : String) (written : Option String) : Except ConfigError String :=
  match written.bind Text.nonBlank? with
  | some text => .ok text
  | none => .error (.missingSetting key)

/-- Completes and checks the settings of a file. -/
def resolve (file : ClusterFile) (nameOption : Option String) : Except ConfigError Cluster := do
  let name ← required "cluster-name"
    ((file.clusterName.bind Text.nonBlank?).or nameOption)
  let server ← required "server" file.server
  let user ← required "user" file.user
  let password ← required "password" file.password
  let template ← required "template" file.template
  return {
    name, server, user, password, template
    insecure := file.insecureFlag.getD false
    datacenter := file.datacenter.getD ""
    resourcePool := file.resourcePool.getD ""
    cloneTimeout := .seconds (file.cloneTimeoutSecs.getD defaultCloneTimeout)
    apiTimeout := .seconds (file.apiTimeoutSecs.getD defaultApiTimeout) }

/-- The configuration from an optional file. Without a file only the cluster name can be
given, so some other setting is missing. -/
def load (config : Option CloudConfig) (nameOption : Option String) :
    Except ConfigError Cluster := do
  let file ← match config with
    | none => pure ClusterFile.empty
    | some config => config.read
  resolve file nameOption

/-- The configuration as it may be shown: everything but the password. -/
def text (cluster : Cluster) : String :=
  let fields := [
    ("cluster_name", Text.quoted cluster.name),
    ("server", Text.quoted cluster.server),
    ("user", Text.quoted cluster.user),
    ("password", Text.quoted "<redacted>"),
    ("insecure", toString cluster.insecure),
    ("datacenter", Text.quoted cluster.datacenter),
    ("resource_pool", Text.quoted cluster.resourcePool),
    ("template", Text.quoted cluster.template),
    ("clone_timeout", cluster.cloneTimeout.text),
    ("api_timeout", cluster.apiTimeout.text)]
  "ClusterConfig \x7b " ++
    ", ".intercalate (fields.map fun (name, shown) => name ++ ": " ++ shown) ++ " \x7d"

end Cluster

end NodeScaler
