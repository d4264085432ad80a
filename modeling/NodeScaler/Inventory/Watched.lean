import NodeScaler.Inventory.Client
import NodeScaler.Plan.Run

/-!
# A client under watch

Every call of a watched client is noted before it is made, and may be made to fail without
reaching the inventory. Faults wait in a queue. A call looks at the first fault that
concerns its method: a fault that still has calls to skip skips this one; any other fails it,
and is gone when it has failed its number of calls.
-/

namespace NodeScaler

/-- The calls of a client. -/
inductive ClientMethod where
  /-- Finds the objects that carry a tag. -/
  | resolve
  /-- Attaches a tag. -/
  | attach
  /-- Reads a name. -/
  | name
  /-- Reads a BIOS UUID. -/
  | uuid
  /-- Clones a template. -/
  | clone
deriving DecidableEq, Repr

/-- The word for a call. -/
def ClientMethod.text : ClientMethod → String
  | resolve => "resolve"
  | attach => "attach"
  | name => "name"
  | uuid => "uuid"
  | clone => "clone"

/-- A failure in waiting. -/
structure Fault where
  /-- The calls that it concerns. -/
  method : ClientMethod
  /-- The number of calls that still go through. -/
  skip : Nat
  /-- The number of calls that fail after them. -/
  times : Nat
  /-- The failure. -/
  error : InventoryError
deriving DecidableEq, Repr

/-- What is known about the calls of a client. -/
structure Watch where
  /-- The faults, the oldest one in front. -/
  faults : List Fault
  /-- The calls that have been made. -/
  calls : List String
deriving DecidableEq, Repr

namespace Watch

/-- Nothing has been called and nothing will fail. -/
def start : Watch := ⟨[], []⟩

/-- A call, by its method and what it is about. -/
structure Call where
  /-- The method. -/
  method : ClientMethod
  /-- What the call is about. -/
  subject : String

/-- Calls are announced; the answer is the failure that they have to end with. -/
abbrev interface : Interface := ⟨Call, fun _ => Option InventoryError⟩

/-- Looks at the first fault of a method: the failure of the call, and the faults after it. -/
def strike (method : ClientMethod) : List Fault → Option InventoryError × List Fault
  | [] => (none, [])
  | fault :: rest =>
    if fault.method = method then
      if 0 < fault.skip then (none, { fault with skip := fault.skip - 1 } :: rest)
      else if fault.times ≤ 1 then (some fault.error, rest)
      else (some fault.error, { fault with times := fault.times - 1 } :: rest)
    else
      let (failure, rest) := strike method rest
      (failure, fault :: rest)

/-- Adds a fault to the queue. -/
def addFault (fault : Fault) (watch : Watch) : Watch :=
  { watch with faults := watch.faults ++ [fault] }

/-- The calls so far, which are then forgotten. -/
def takeCalls (watch : Watch) : List String × Watch := (watch.calls, { watch with calls := [] })

/-- Notes a call and finds its failure. -/
def answer : Handler interface Watch
  | call, watch =>
    let (failure, faults) := strike call.method watch.faults
    (failure, ⟨faults, watch.calls ++ [call.method.text ++ " " ++ call.subject]⟩)

variable {I : Interface} {α : Type}

/-- Announces a call, and makes it unless it has to fail. -/
def around (method : ClientMethod) (subject : String) (call : Attempt I InventoryError α) :
    Attempt (interface.sum I) InventoryError α := do
  let fails ← Attempt.left (Attempt.question (I := interface) ⟨method, subject⟩ .ok)
  match fails with
  | some failure => throw failure
  | none => call.right

/-- The client with all its calls under watch. -/
def client (inner : InventoryClient I) : InventoryClient (interface.sum I) where
  resolve tag := around .resolve tag (inner.resolve tag)
  attach tag object := around .attach (tag ++ " " ++ object.text) (inner.attach tag object)
  name object := around .name object.text (inner.name object)
  uuid object := around .uuid object.text (inner.uuid object)
  clone request := around .clone request.name (inner.clone request)

end Watch

end NodeScaler
