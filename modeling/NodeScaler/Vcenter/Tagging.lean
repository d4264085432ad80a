import NodeScaler.Inventory.ObjectJson
import NodeScaler.Vcenter.Session

/-!
# Tags of the platform

The platform knows tags by identifiers. The identifier of a tag of a given name is found by
reading the listed tags one after the other; the first of that name is taken. A tag that does
not exist has no objects, but nothing can be attached to it.
-/

namespace NodeScaler.Vcenter

/-- An identifier with a name, from an object whose field `idField` holds the identifier. -/
def named? (idField : String) (value : Json.Value) : Option (String × String) :=
  match value.fields? [idField, "name"] with
  | some [some id, some name] => return (← id.text?, ← name.text?)
  | _ => none

/-- The list that a value is, with all its elements read. -/
def listOf? {α : Type} (read : Json.Value → Option α) (value : Json.Value) : Option (List α) :=
  value.elements?.bind fun elements => elements.mapM read

namespace Session

/-- The identifier and the name of a tag. -/
def tag (session : Session) (id : String) : Attempt Http InventoryError (String × String) :=
  session.fetch (named? "id") .get ("/api/cis/tagging/tag/" ++ id) []

/-- The identifier of the first of the listed tags that has a name. -/
def firstNamed (session : Session) (name : String) :
    List String → Attempt Http InventoryError (Option String)
  | [] => return none
  | listed :: rest => do
    let (id, found) ← session.tag listed
    if found = name then return some id else firstNamed session name rest

/-- The identifier of the tag of a name, if there is one. -/
def tagId? (session : Session) (name : String) : Attempt Http InventoryError (Option String) := do
  let listed ← session.fetch (listOf? Json.Value.text?) .get "/api/cis/tagging/tag" []
  session.firstNamed name listed

/-- The path for the objects of a tag. -/
def associationPath (id : String) : String := "/api/cis/tagging/tag-association/" ++ id

/-- The objects that carry a tag. -/
def carriers (session : Session) (name : String) : Attempt Http InventoryError RefSet := do
  match ← session.tagId? name with
  | none => return .empty
  | some id =>
    let objects ← session.fetch (listOf? ObjectRef.ofJson?) .post (associationPath id)
      [("action", "list-attached-objects")]
    return .ofList objects

/-- What is sent to attach a tag to an object. -/
def attachment (object : ObjectRef) : Json.Value := .ofFields [("object_id", object.json)]

/-- Attaches a tag to an object. -/
def attach (session : Session) (name : String) (object : ObjectRef) :
    Attempt Http InventoryError Unit := do
  match ← session.tagId? name with
  | none => throw (.notFound ("tag " ++ name))
  | some id =>
    let response ← session.send .post (associationPath id) [("action", "attach")]
      (some (attachment object))
    let _ ← ExceptT.mk (pure (checked response))

end Session

end NodeScaler.Vcenter
