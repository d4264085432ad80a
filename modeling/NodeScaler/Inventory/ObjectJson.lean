import NodeScaler.Inventory.Object
import NodeScaler.Json.Reader
import NodeScaler.Json.Writer

/-!
# References in JSON

A reference is an object with the fields `type` and `id`, or the array of these two.
-/

namespace NodeScaler.ObjectRef

/-- The JSON form of a reference. -/
def json (object : ObjectRef) : Json.Value :=
  .ofFields [("type", .ofText object.kind), ("id", .ofText object.id)]

/-- The reference that a JSON value stands for. -/
def ofJson? (value : Json.Value) : Option ObjectRef :=
  match value.fields? ["type", "id"] with
  | some [some kind, some id] => return ⟨← kind.text?, ← id.text?⟩
  | _ => none

/-- The reference that a JSON text stands for. -/
def ofText? (text : String) : Option ObjectRef := (Json.Value.read? text.toList).bind ofJson?

end NodeScaler.ObjectRef
