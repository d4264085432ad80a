import NodeScaler.Inventory.Client
import NodeScaler.Plan.Run

/-!
# An inventory in memory

The inventory holds machines, numbered from one in the order in which they were made, and
tags, each with the objects that carry it. Machines made by name may share it; a clone
needs a name that no machine has. A clone is made in two phases with the clone delay
between them: the request is noted and the template looked up, and later the name is
checked and the machine allocated. It starts without tags.
-/

namespace NodeScaler

/-- An inventory in memory. -/
structure Memory where
  /-- The names of the machines, in the order of their numbers. -/
  machines : List String
  /-- The tags with the objects that carry them, in the order in which they were created. -/
  tags : List (String × RefSet)
  /-- The names of the templates. -/
  templates : List String
  /-- The names that no clone can be given. -/
  failing : List String
  /-- The time that a clone takes. -/
  cloneDelay : Duration
  /-- Every request for a clone so far. -/
  requests : List CloneRequest
deriving DecidableEq

namespace Memory

/-- An inventory that holds nothing. -/
def empty : Memory := ⟨[], [], [], [], .zero, []⟩

/-! ## Machines -/

/-- The machine with a number. -/
def machine (number : Nat) : ObjectRef := .vm ("vm-" ++ toString number)

/-- The BIOS UUID of the machine with a number: a fixed beginning and the number in twelve
hexadecimal digits. -/
def uuidOf (number : Nat) : String :=
  let digits := (Nat.toDigits 16 number).map Char.toUpper
  "4237A000-0000-4000-8000-" ++
    String.ofList (List.replicate (12 - digits.length) '0' ++ digits)

/-- The number and the name of a machine. -/
def find? (memory : Memory) (object : ObjectRef) : Option (Nat × String) :=
  ((memory.machines.zipIdx 1).find? fun (_, number) => machine number = object).map
    fun (name, number) => (number, name)

/-- Makes one more machine. -/
def allocate (name : String) (memory : Memory) : ObjectRef × Memory :=
  (machine (memory.machines.length + 1), { memory with machines := memory.machines ++ [name] })

/-- The names of all machines in ascending order. -/
def machineNames (memory : Memory) : List String :=
  memory.machines.mergeSort fun left right => decide (left ≤ right)

/-! ## Tags -/

/-- The objects that carry a tag, if there is the tag. -/
def carriers? (memory : Memory) (tag : String) : Option RefSet := memory.tags.lookup tag

/-- Changes the objects that carry a tag, which is created if it does not exist. -/
def alterTag (tag : String) (change : RefSet → RefSet) :
    List (String × RefSet) → List (String × RefSet)
  | [] => [(tag, change .empty)]
  | (other, carriers) :: rest =>
    if other = tag then (tag, change carriers) :: rest
    else (other, carriers) :: alterTag tag change rest

/-- Creates a tag, unless it exists. -/
def createTag (tag : String) (memory : Memory) : Memory :=
  { memory with tags := alterTag tag id memory.tags }

/-- Puts a tag on an object without asking whether either exists. -/
def putTag (object : ObjectRef) (memory : Memory) (tag : String) : Memory :=
  { memory with tags := alterTag tag (·.insert object) memory.tags }

/-- The tags that an object carries, in ascending order. -/
def tagsOf (memory : Memory) (object : ObjectRef) : List String :=
  ((memory.tags.filter fun (_, carriers) => object ∈ carriers).map (·.1)).mergeSort
    fun left right => decide (left ≤ right)

/-! ## Preparation -/

/-- Adds a template. -/
def addTemplate (name : String) (memory : Memory) : Memory :=
  { memory with templates := memory.templates.insert name }

/-- Adds a machine that carries tags; tags that do not exist are created. -/
def addMachine (name : String) (tags : List String) (memory : Memory) : ObjectRef × Memory :=
  let (object, memory) := memory.allocate name
  (object, tags.foldl (putTag object) memory)

/-- Makes every clone with a name fail. -/
def failCloneOf (name : String) (memory : Memory) : Memory :=
  { memory with failing := memory.failing.insert name }

/-- Sets the time that a clone takes. -/
def setCloneDelay (delay : Duration) (memory : Memory) : Memory :=
  { memory with cloneDelay := delay }

/-! ## Requests -/

/-- What a client asks the inventory. -/
inductive Question where
  /-- The objects that carry a tag. -/
  | resolve (tag : String)
  /-- To attach a tag to an object. -/
  | attach (tag : String) (object : ObjectRef)
  /-- The name of a machine. -/
  | name (object : ObjectRef)
  /-- The BIOS UUID of a machine. -/
  | uuid (object : ObjectRef)
  /-- To begin a clone: how long it takes. -/
  | beginClone (request : CloneRequest)
  /-- To finish a clone: the new machine. -/
  | finishClone (request : CloneRequest)

/-- What the inventory answers. -/
abbrev Answer : Question → Type
  | .resolve _ => RefSet
  | .attach _ _ => Except InventoryError Unit
  | .name _ => Except InventoryError String
  | .uuid _ => Except InventoryError String
  | .beginClone _ => Except InventoryError Duration
  | .finishClone _ => Except InventoryError ObjectRef

/-- The requests to an inventory in memory. -/
abbrev interface : Interface := ⟨Question, Answer⟩

/-- The failure that there is no such object. -/
def noObject (object : ObjectRef) : InventoryError := .notFound ("object " ++ object.text)

/-- The answer to a request, and the inventory after it. The object is looked up before
the tag, and a name that cannot be cloned fails before a name that is taken. -/
def answer : Handler interface Memory
  | .resolve tag, memory => ((memory.carriers? tag).getD .empty, memory)
  | .attach tag object, memory =>
    if (memory.find? object).isNone then (.error (noObject object), memory)
    else if (memory.carriers? tag).isNone then (.error (.notFound ("tag " ++ tag)), memory)
    else (.ok (), memory.putTag object tag)
  | .name object, memory =>
    match memory.find? object with
    | some (_, name) => (.ok name, memory)
    | none => (.error (noObject object), memory)
  | .uuid object, memory =>
    match memory.find? object with
    | some (number, _) => (.ok (uuidOf number), memory)
    | none => (.error (noObject object), memory)
  | .beginClone request, memory =>
    let noted := { memory with requests := memory.requests ++ [request] }
    if request.template ∈ memory.templates then (.ok memory.cloneDelay, noted)
    else (.error (.notFound ("template " ++ request.template)), noted)
  | .finishClone request, memory =>
    if request.name ∈ memory.failing then
      (.error (.request ("clone of " ++ request.name ++ " failed")), memory)
    else if request.name ∈ memory.machines then
      (.error (.alreadyExists ("the name '" ++ request.name ++ "' already exists")), memory)
    else
      let (object, memory) := memory.allocate request.name
      (.ok object, memory)

/-- The client of an inventory in memory. -/
def client : InventoryClient interface where
  resolve tag := .question (.resolve tag) .ok
  attach tag object := .question (.attach tag object) id
  name object := .question (.name object) id
  uuid object := .question (.uuid object) id
  clone request := do
    let delay ← Attempt.question (.beginClone request) id
    Attempt.sleep delay
    Attempt.question (.finishClone request) id

end Memory

end NodeScaler
