import NodeScaler.Config.Error
import NodeScaler.Toml.Document

/-!
# The cloud config file

The file is a TOML document of which one section is read, `global`, with ten settings that
may each be absent. Other settings and sections are ignored. The section may also be
written as an array that gives the ten settings in their order. A setting of the wrong
type makes the whole file malformed.
-/

namespace NodeScaler

/-- What a cloud config says, before defaults. -/
structure ClusterFile where
  /-- The name of the cluster. -/
  clusterName : Option String
  /-- The host of the platform, with a port if need be. -/
  server : Option String
  /-- The user to log in as. -/
  user : Option String
  /-- The password of the user. -/
  password : Option String
  /-- Certificates are not verified. -/
  insecureFlag : Option Bool
  /-- The name of the datacenter. -/
  datacenter : Option String
  /-- The name of the resource pool. -/
  resourcePool : Option String
  /-- The name of the template for new machines. -/
  template : Option String
  /-- The time a clone may take, in seconds. -/
  cloneTimeoutSecs : Option Nat
  /-- The time any other request may take, in seconds. -/
  apiTimeoutSecs : Option Nat
deriving DecidableEq, Repr

namespace ClusterFile

/-- A file that says nothing. -/
def empty : ClusterFile := ⟨none, none, none, none, none, none, none, none, none, none⟩

/-- A setting that is a text. -/
def asText : Toml.Node → Option String
  | .text value => some value
  | _ => none

/-- A setting that is a truth value. -/
def asFlag : Toml.Node → Option Bool
  | .boolean value => some value
  | _ => none

/-- A setting that is a number of seconds. -/
def asCount : Toml.Node → Option Nat
  | .integer value => if 0 ≤ value then some value.toNat else none
  | _ => none

/-- A setting that may be absent but must not have another type. -/
def setting? {α : Type} (as : Toml.Node → Option α) (entries : Toml.Table) (name : String) :
    Option (Option α) :=
  match entries.get? name with
  | none => some none
  | some node => (as node).map some

/-- The settings of a section with names. -/
def ofEntries? (entries : Toml.Table) : Option ClusterFile :=
  return {
    clusterName := ← setting? asText entries "cluster-name"
    server := ← setting? asText entries "server"
    user := ← setting? asText entries "user"
    password := ← setting? asText entries "password"
    insecureFlag := ← setting? asFlag entries "insecure-flag"
    datacenter := ← setting? asText entries "datacenter"
    resourcePool := ← setting? asText entries "resource-pool"
    template := ← setting? asText entries "template"
    cloneTimeoutSecs := ← setting? asCount entries "clone-timeout-secs"
    apiTimeoutSecs := ← setting? asCount entries "api-timeout-secs" }

/-- The settings of a section that is an array. None may be left out, and what follows
the ten is ignored. -/
def ofElements? : List Toml.Node → Option ClusterFile
  | name :: server :: user :: password :: insecure :: datacenter :: pool :: template ::
      clone :: api :: _ =>
    return {
      clusterName := some (← asText name)
      server := some (← asText server)
      user := some (← asText user)
      password := some (← asText password)
      insecureFlag := some (← asFlag insecure)
      datacenter := some (← asText datacenter)
      resourcePool := some (← asText pool)
      template := some (← asText template)
      cloneTimeoutSecs := some (← asCount clone)
      apiTimeoutSecs := some (← asCount api) }
  | _ => none

/-- The settings of a document. A section that is a date has none of them. -/
def ofDocument? (document : Toml.Table) : Option ClusterFile :=
  match document.get? "global" with
  | none | some .moment => some empty
  | some (.table _ entries) => ofEntries? entries
  | some (.array elements) => ofElements? elements
  | some _ => none

/-- Reads the text of a file. -/
def parse (text : String) : Except ConfigError ClusterFile :=
  match (Toml.document? text.toList).bind ofDocument? with
  | some file => .ok file
  | none => .error .malformed

end ClusterFile

end NodeScaler
