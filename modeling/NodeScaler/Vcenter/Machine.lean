import NodeScaler.Inventory.Client
import NodeScaler.Vcenter.Tagging

/-!
# Machines of the platform

A machine is read by its identifier. A clone is placed first: the datacenter, the resource
pool, the folder for machines and the template are looked up by name, in this order, and
each must be the only one of its name; where no name is given it must be the only one there
is. The request for the clone is sent once, and answered when the clone is done, so it has
no deadline of its own.
-/

namespace NodeScaler.Vcenter

/-- What is known about a machine. -/
structure MachineInfo where
  /-- Its name. -/
  name : String
  /-- Its BIOS UUID, if the platform tells it. -/
  uuid : Option String
deriving DecidableEq, Repr

/-- The BIOS UUID in the identity of a machine. -/
def identity? (value : Json.Value) : Option String :=
  match value.fields? ["bios_uuid"] with
  | some [some uuid] => uuid.text?
  | _ => none

/-- What a value says about a machine. The identity may be absent or empty. -/
def MachineInfo.ofJson? (value : Json.Value) : Option MachineInfo :=
  match value.fields? ["name", "identity"] with
  | some [some name, identity] => do
    let name ← name.text?
    match identity.bind Json.Value.present? with
    | none => return ⟨name, none⟩
    | some identity => return ⟨name, some (← identity? identity)⟩
  | _ => none

/-- The identifier of the only candidate with a name; of the only candidate at all, if the
name is empty. -/
def pick (kind name : String) (candidates : List (String × String)) :
    Except InventoryError String :=
  let matching := candidates.filter fun (_, found) => name = "" || found = name
  match matching with
  | [(id, _)] => .ok id
  | [] =>
    if name = "" then .error (.notFound ("default " ++ kind))
    else .error (.notFound (kind ++ " " ++ name))
  | _ => .error (.ambiguous kind matching.length)

/-- The name of the folder for machines. -/
def folderName : String := "vm"

namespace Session

/-- What is known about a machine. -/
def machine (session : Session) (object : ObjectRef) : Attempt Http InventoryError MachineInfo :=
  session.fetch MachineInfo.ofJson? .get ("/api/vcenter/vm/" ++ object.id) []

/-- The name of a machine. -/
def machineName (session : Session) (object : ObjectRef) : Attempt Http InventoryError String := do
  return (← session.machine object).name

/-- The BIOS UUID of a machine. -/
def machineUuid (session : Session) (object : ObjectRef) : Attempt Http InventoryError String := do
  match (← session.machine object).uuid with
  | some uuid => return uuid
  | none => throw (.decode (object.text ++ " has no identity"))

/-- The field for a name that may be empty. -/
def nameField (name : String) : List (String × String) :=
  if name = "" then [] else [("names", name)]

/-- Looks up candidates and picks the only one. -/
def find (session : Session) (kind idField path name : String)
    (fields : List (String × String)) : Attempt Http InventoryError String := do
  let candidates ← session.fetch (listOf? (named? idField)) .get path fields
  .mk (pure (pick kind name candidates))

/-- The datacenter of a name. -/
def datacenter (session : Session) (name : String) : Attempt Http InventoryError String :=
  session.find "datacenter" "datacenter" "/api/vcenter/datacenter" name (nameField name)

/-- The resource pool of a name in a datacenter. -/
def resourcePool (session : Session) (datacenter name : String) :
    Attempt Http InventoryError String :=
  session.find "resource pool" "resource_pool" "/api/vcenter/resource-pool" name
    (("datacenters", datacenter) :: nameField name)

/-- The folder for machines of a datacenter. -/
def folder (session : Session) (datacenter : String) : Attempt Http InventoryError String :=
  session.find "folder" "folder" "/api/vcenter/folder" folderName
    [("datacenters", datacenter), ("type", "VIRTUAL_MACHINE"), ("names", folderName)]

/-- The template of a name in a datacenter. -/
def template (session : Session) (datacenter name : String) :
    Attempt Http InventoryError String :=
  session.find "template" "vm" "/api/vcenter/vm" name
    [("datacenters", datacenter), ("names", name)]

/-- What is sent to clone a machine. -/
def cloneBody (source name folder pool : String) : Json.Value :=
  .ofFields [("source", .ofText source), ("name", .ofText name),
    ("placement", .ofFields [("folder", .ofText folder), ("resource_pool", .ofText pool)]),
    ("power_on", .boolean true)]

/-- Makes a machine from a template. -/
def clone (session : Session) (request : CloneRequest) :
    Attempt Http InventoryError ObjectRef := do
  let datacenter ← session.datacenter request.datacenter
  let pool ← session.resourcePool datacenter request.resourcePool
  let folder ← session.folder datacenter
  let source ← session.template datacenter request.template
  let response ← (attempt Http.exchange
    (session.request? .post "/api/vcenter/vm" [("action", "clone")]
      (some (cloneBody source request.name folder pool)))).mapError fun failure =>
        .request failure.message
  return .vm (← ExceptT.mk (pure (decoded Json.Value.text? response)))

/-- Access to the inventory through a session. -/
def client (session : Session) : InventoryClient Http where
  resolve := session.carriers
  attach := session.attach
  name := session.machineName
  uuid := session.machineUuid
  clone := session.clone

end Session

end NodeScaler.Vcenter
