import NodeScaler.Proofs.Inventory.Answering
import NodeScaler.Proofs.Inventory.Referencing
import NodeScaler.Proofs.Vcenter.Mirror

/-!
# A server that holds an inventory

The server answers from an inventory in memory, which is all it knows, and it is a mirror of what it
holds. So whatever is proved against mirrors holds of some server, for each inventory whose tags
have identifiers of their own.
-/

namespace NodeScaler

open Json (Value)

namespace Vcenter

/-! ## Values in responses -/

/-- A success that says a value. -/
def saying (value : Value) : HttpResponse := ⟨200, value.text⟩

/-- The value that is said is read again. -/
theorem read?_saying {value : Value} (proper : value.Proper) :
    Value.read? (saying value).body.toList = some value := by
  rw [saying, Value.text, String.toList_ofList, proper.read?_write]

/-- What is said is read. -/
theorem conveys_saying {α : Type} {read : Value → Option α} {value : Value} {found : α}
    (proper : value.Proper) (reads : read value = some found) :
    Conveys read found (saying value) := by
  have isOk : checked (saying value) = .ok (saying value) := by simp [checked, saying]
  rw [Conveys, decoded, isOk]
  simp only [bind, Except.bind, read?_saying proper, Option.bind_some, reads]
  rfl

/-- A list is said as the array of its entries. -/
theorem conveys_list {α β : Type} {read : Value → Option β} {describe : α → Value} {value : α → β}
    (proper : ∀ entry, (describe entry).Proper)
    (reads : ∀ entry, read (describe entry) = some (value entry)) (list : List α) :
    Conveys (listOf? read) (list.map value) (saying (.array (list.map describe))) := by
  apply conveys_saying
  · refine .array fun element isIn => ?_
    obtain ⟨entry, -, rfl⟩ := List.mem_map.1 isIn
    exact proper entry
  · change (list.map describe).mapM read = some (list.map value)
    induction list with
    | nil => rfl
    | cons first rest inductionHypothesis =>
      rw [List.map_cons, List.mapM_cons, reads, inductionHypothesis]
      rfl

/-- An object with a name, and its identifier in a field. -/
def described (idField : String) (entry : String × String) : Value :=
  .ofFields [(idField, .ofText entry.1), ("name", .ofText entry.2)]

/-- Such an object is proper. -/
theorem proper_described (idField : String) (entry : String × String) :
    (described idField entry).Proper := by
  apply Value.Proper.ofFields
  simp [Value.ofText, Value.Proper.string]

/-- Such an object is read. -/
theorem named?_described {idField : String} (differs : idField ≠ "name") (entry : String × String) :
    named? idField (described idField entry) = some entry := by
  simp [named?, described, Value.fields?, Value.ofFields, Value.ofText, Value.text?, differs,
    beq_false_of_ne differs.symm, List.lookup_cons]

/-! ## The server -/

namespace Site

variable (site : Site)

/-- The tag of an identifier, with the objects that carry it. -/
def tagOf? (memory : Memory) (id : String) : Option (String × RefSet) :=
  memory.tags.find? fun (tag, _) => site.tagId tag = id

/-- What is known about a machine. -/
def machineValue (number : Nat) (name : String) : Value :=
  .ofFields [("name", .ofText name),
    ("identity", .ofFields [("bios_uuid", .ofText (Memory.uuidOf number))])]

/-- The template, if there is one, and the machines. -/
def listed (memory : Memory) : List (String × String) :=
  (if site.cloning.template ∈ memory.templates then [(site.source, site.cloning.template)]
    else []) ++
    (memory.machines.zipIdx 1).map fun (name, number) => ((Memory.machine number).id, name)

/-- What is at a path, if there is anything to be read. -/
def content? (memory : Memory) : List String → Option Value
  | ["api", "cis", "tagging", "tag"] =>
    some (.array ((memory.tags.map (·.1)).map fun tag => .ofText (site.tagId tag)))
  | ["api", "cis", "tagging", "tag", id] =>
    (site.tagOf? memory id).map fun (tag, _) => described "id" (id, tag)
  | ["api", "vcenter", "datacenter"] =>
    some (.array [described "datacenter" (site.datacenter, site.cloning.datacenter)])
  | ["api", "vcenter", "resource-pool"] =>
    some (.array [described "resource_pool" (site.pool, site.cloning.resourcePool)])
  | ["api", "vcenter", "folder"] => some (.array [described "folder" (site.folder, folderName)])
  | ["api", "vcenter", "vm"] => some (.array ((site.listed memory).map (described "vm")))
  | ["api", "vcenter", "vm", id] =>
    (memory.find? (.vm id)).map fun (number, name) => machineValue number name
  | _ => none

/-- The object that a body asks to attach a tag to. -/
def attached? (body : Value) : Option ObjectRef :=
  match body.fields? ["object_id"] with
  | some [some object] => ObjectRef.ofJson? object
  | _ => none

/-- The name that a body asks to give to a clone. -/
def clonedName? (body : Value) : Option String :=
  match body.fields? ["name"] with
  | some [some name] => name.text?
  | _ => none

/-- Attaches a tag, or lists the objects that carry it. -/
def tagged (memory : Memory) (tag : String) (carriers : RefSet) (query : Option String)
    (body : Option Value) : HttpResponse × Memory :=
  if query = some "action=list-attached-objects" then
    (saying (.array (carriers.members.map ObjectRef.json)), memory)
  else match query, body.bind attached? with
    | some "action=attach", some object => (⟨204, ""⟩, memory.putTag object tag)
    | _, _ => (⟨400, ""⟩, memory)

/-- Makes a clone of a name, unless it is refused or taken. -/
def madeClone (memory : Memory) (name : String) : HttpResponse × Memory :=
  if name ∈ memory.failing then (⟨500, "clone failed"⟩, memory)
  else if name ∈ site.kept ∨ name ∈ memory.machines then (⟨400, "ALREADY_EXISTS"⟩, memory)
  else
    let (object, memory) := memory.allocate name
    (saying (.ofText object.id), memory)

/-- What comes of acting at a path. -/
def acted (memory : Memory) (query : Option String) (body : Option Value) :
    List String → HttpResponse × Memory
  | ["api", "cis", "tagging", "tag-association", id] =>
    match site.tagOf? memory id with
    | some (tag, carriers) => tagged memory tag carriers query body
    | none => (⟨404, ""⟩, memory)
  | ["api", "vcenter", "vm"] =>
    match query, body.bind clonedName? with
    | some "action=clone", some name => site.madeClone memory name
    | _, _ => (⟨400, ""⟩, memory)
  | _ => (⟨404, ""⟩, memory)

/-- The server. It responds at once. -/
def replica : Handler Http Memory := fun request memory =>
  let path := request.url.path.drop site.home.path.length
  let (response, memory) := match request.method with
    | .get => (((site.content? memory path).map saying).getD ⟨404, ""⟩, memory)
    | .post => site.acted memory request.url.query request.body path
  (.response .zero response, memory)

/-- The server shows the inventory that it holds, if that has certain tags; it does not remember
requests. -/
def Holds (tags : List String) (state memory : Memory) : Prop :=
  state = { memory with requests := [] } ∧ memory.tags.map (·.1) = tags

/-- A site that fits such a server. -/
structure Fit (tags : List String) : Prop where
  /-- The session can talk to the server. -/
  usable : site.session.Usable site.home
  /-- Responses come in time for the session. -/
  prompt : site.latency.nanoseconds ≤ site.session.timeout.nanoseconds
  /-- The five responses for a clone come in time for it. -/
  inTime : 5 * site.latency.nanoseconds ≤ site.cloning.cloneTimeout.waited.nanoseconds
  /-- The template has a name, which is not for machines. -/
  named : site.cloning.template ≠ ""
  keeps : site.cloning.template ∈ site.kept
  /-- Identifiers of tags are made of letters, digits, hyphens and colons. -/
  isId : ∀ tag ∈ tags, Url.IsId (site.tagId tag)
  /-- Each tag has an identifier of its own. -/
  distinct : ∀ tag ∈ tags, ∀ other ∈ tags, site.tagId tag = site.tagId other → tag = other

/-! ## Reading and acting -/

variable {site} {tags : List String} {state memory : Memory} {reply : HttpResponse → Prop}

/-- A request that reads gets what is at its path. -/
theorem replies_get (holds : Holds tags state memory) {segments : List String}
    {fields : List (String × String)} {value : Value}
    (found : site.content? state segments = some value) (isReply : reply (saying value)) :
    site.Replies site.replica (Holds tags) (site.get segments fields) state reply memory := by
  have path : (site.get segments fields).url.path.drop site.home.path.length = segments := by
    have whole : (site.get segments fields).url.path = site.home.path ++ segments := by
      simp only [get, Session.sent, Url.below, Url.withFields]
      split <;> rfl
    rw [whole, List.drop_left]
  refine ⟨saying value, state, ⟨.zero, Nat.zero_le _, ?_⟩, isReply, holds⟩
  simp only [replica, path]
  simp only [get, Session.sent, found]
  rfl

/-- A request that acts does what its path and its query say. -/
theorem replies_post (noQuery : site.home.query = none) {segments : List String}
    {action query : String} (written : String.ofList (Percent.fields [("action", action)]) = query)
    {body : Option Value} {response : HttpResponse} {later : Memory}
    (acts : site.acted state (some query) body segments = (response, later))
    (isReply : reply response) (holds : Holds tags later memory) :
    site.Replies site.replica (Holds tags) (site.post segments [("action", action)] body) state
      reply memory := by
  refine ⟨response, later, ⟨.zero, Nat.zero_le _, ?_⟩, isReply, holds⟩
  have url : (site.post segments [("action", action)] body).url =
      { site.home with path := site.home.path ++ segments, query := some query } := by
    simp only [post, Session.sent, Url.below, Url.withFields, noQuery, written]
    rfl
  simp only [replica, url, List.drop_left]
  simp only [post, Session.sent, acts]

/-- The names of tags are those that are listed. -/
theorem mem_names {tag : String} : tag ∈ memory.tags.map (·.1) ↔ HasTag memory tag := by
  rw [HasTag, Memory.carriers?, List.lookup_isSome_iff, List.mem_map]
  constructor
  · rintro ⟨entry, isIn, rfl⟩
    exact ⟨entry, isIn, beq_self_eq_true _⟩
  · rintro ⟨entry, isIn, same⟩
    exact ⟨entry, isIn, (beq_iff_eq.1 same).symm⟩

/-- The tag of an identifier is found. -/
theorem Fit.tagOf? (fit : site.Fit tags) (holds : Holds tags state memory) {tag : String}
    (hasTag : HasTag memory tag) :
    ∃ carriers, memory.carriers? tag = some carriers ∧
      site.tagOf? state (site.tagId tag) = some (tag, carriers) := by
  obtain ⟨rfl, rfl⟩ := holds
  obtain ⟨carriers, found⟩ := Option.isSome_iff_exists.1 hasTag
  refine ⟨carriers, found, ?_⟩
  obtain ⟨before, after, whole, differ⟩ := List.lookup_eq_some_iff.1 found
  have isOther : ∀ entry ∈ before, ¬decide (site.tagId entry.1 = site.tagId tag) = true := by
    intro entry isIn
    rw [decide_eq_true_iff]
    intro same
    have isEntry : entry.1 ∈ memory.tags.map (·.1) := by
      rw [whole]
      exact List.mem_map_of_mem (List.mem_append_left _ isIn)
    have equal := fit.distinct _ isEntry _ (mem_names.2 hasTag) same
    have unequal := differ entry isIn
    simp [equal] at unequal
  change memory.tags.find? (fun entry => decide (site.tagId entry.1 = site.tagId tag)) = _
  rw [whole, List.find?_append, List.find?_eq_none.2 isOther, List.find?_cons]
  simp

/-- What is known about a machine is read. -/
theorem conveys_machine (number : Nat) (name : String) :
    Conveys MachineInfo.ofJson? ⟨name, some (Memory.uuidOf number)⟩
      (saying (machineValue number name)) := by
  have identity : (Value.ofFields [("bios_uuid", .ofText (Memory.uuidOf number))]).Proper :=
    .ofFields (List.forall_mem_singleton.2 (.string _))
  apply conveys_saying
  · exact .ofFields
      (List.forall_mem_cons.2 ⟨.string _, List.forall_mem_singleton.2 identity⟩)
  · rfl

/-- Of what is listed, just the template has its name. -/
theorem filter_listed (named : site.cloning.template ≠ "")
    (apart : site.cloning.template ∉ memory.machines) :
    (site.listed memory).filter
        (fun (_, found) => site.cloning.template = "" || found = site.cloning.template) =
      if site.cloning.template ∈ memory.templates then [(site.source, site.cloning.template)]
      else [] := by
  have others : ((memory.machines.zipIdx 1).map fun (name, number) =>
      ((Memory.machine number).id, name)).filter
        (fun (_, found) => site.cloning.template = "" || found = site.cloning.template) = [] := by
    rw [List.filter_eq_nil_iff]
    intro entry isIn
    obtain ⟨⟨name, number⟩, isMachine, rfl⟩ := List.mem_map.1 isIn
    have isName : name ∈ memory.machines := by
      obtain ⟨-, -, found⟩ := List.mem_zipIdx isMachine
      exact found ▸ List.getElem_mem _
    simp only [named, decide_false, Bool.false_or, decide_eq_true_iff]
    rintro rfl
    exact apart isName
  rw [listed, List.filter_append, others, List.append_nil]
  split <;> simp

/-- What is the only one at a path is the only one with its name. -/
theorem replies_sole (holds : Holds tags state memory) {segments : List String}
    {fields : List (String × String)} {idField id name : String} (differs : idField ≠ "name")
    (sole : site.content? state segments = some (.array [described idField (id, name)])) :
    site.Replies site.replica (Holds tags) (site.get segments fields) state
      (fun response => ∃ found, Offers idField name [(id, found)] response) memory := by
  refine replies_get holds sole ⟨name, _, ?_,
    conveys_list (proper_described _) (named?_described differs) [_]⟩
  simp

/-- Acting at the objects of a tag is acting with those that carry it. -/
theorem acted_association {tag : String} {carriers : RefSet}
    (found : site.tagOf? state (site.tagId tag) = some (tag, carriers)) (query : Option String)
    (body : Option Value) :
    site.acted state query body (site.association tag) = tagged state tag carriers query body := by
  change (match site.tagOf? state (site.tagId tag) with
    | some (tag, carriers) => tagged state tag carriers query body
    | none => _) = _
  rw [found]

/-- Asked for a clone, the server makes it. -/
theorem acted_clone (memory : Memory) (name : String) :
    site.acted memory (some "action=clone")
      (some (Session.cloneBody site.source name site.folder site.pool)) machines =
        site.madeClone memory name :=
  rfl

/-- The server mirrors the inventory that it holds. -/
theorem Fit.mirrors (fit : site.Fit tags) : site.Mirrors site.replica (Holds tags) where
  usable := fit.usable
  prompt := fit.prompt
  inTime := fit.inTime
  keeps := fit.keeps
  unnoted requests holds := ⟨holds.1, holds.2⟩
  isId holds hasTag := fit.isId _ (holds.2 ▸ mem_names.2 hasTag)
  listsTags := by
    rintro state memory holds
    obtain ⟨rfl, -⟩ := id holds
    refine replies_get holds rfl ⟨_, ⟨memory.tags.map (·.1), rfl, fun tag => mem_names⟩, ?_⟩
    have proper (tag : String) : (Value.ofText (site.tagId tag)).Proper := .string _
    have reads (tag : String) : (Value.ofText (site.tagId tag)).text? = some (site.tagId tag) := rfl
    exact conveys_list proper reads _
  describesTag := by
    intro state memory tag holds hasTag
    obtain ⟨carriers, -, found⟩ := fit.tagOf? holds hasTag
    have content : site.content? state (Site.tags ++ [site.tagId tag]) =
        some (described "id" (site.tagId tag, tag)) := by
      change (site.tagOf? state (site.tagId tag)).map _ = _
      rw [found]
      rfl
    refine replies_get holds content ?_
    exact conveys_saying (proper_described _ _) (named?_described (by decide) _)
  listsCarriers := by
    intro state memory tag holds hasTag
    obtain ⟨carriers, isCarriers, found⟩ := fit.tagOf? holds hasTag
    have lists : tagged state tag carriers (some "action=list-attached-objects") none =
        (saying (.array (carriers.members.map ObjectRef.json)), state) := if_pos rfl
    refine replies_post fit.usable.query (by decide) ((acted_association found _ _).trans lists)
      ⟨_, fun object => ?_, conveys_list ObjectRef.proper_json ObjectRef.ofJson?_json _⟩ holds
    rw [List.map_id', Memory.carrying, isCarriers]
    rfl
  attaches := by
    intro state memory tag object holds hasTag has
    obtain ⟨carriers, isCarriers, found⟩ := fit.tagOf? holds hasTag
    have asks : attached? (Session.attachment object) = some object :=
      ObjectRef.ofJson?_json object
    have attaches : tagged state tag carriers (some "action=attach")
        (some (Session.attachment object)) = (⟨204, ""⟩, state.putTag object tag) := by
      simp [tagged, asks]
    refine replies_post fit.usable.query (by decide) ((acted_association found _ _).trans attaches)
      ⟨by decide, by decide⟩ ?_
    obtain ⟨rfl, same⟩ := holds
    exact ⟨rfl, (Memory.alterTag_names _ hasTag).trans same⟩
  describesMachine := by
    rintro state memory number name ⟨rfl, same⟩ found
    have content : site.content? { memory with requests := [] }
        (machines ++ [(Memory.machine number).id]) = some (machineValue number name) := by
      change (memory.find? (Memory.machine number)).map _ = _
      rw [found]
      rfl
    exact replies_get ⟨rfl, same⟩ content (conveys_machine number name)
  offersDatacenter holds := replies_sole holds (by decide) rfl
  offersPool holds := replies_sole holds (by decide) rfl
  offersFolder holds := replies_sole holds (by decide) rfl
  offersTemplate := by
    rintro state memory ⟨rfl, same⟩ apart
    refine replies_get ⟨rfl, same⟩ rfl ⟨_, ?_,
      conveys_list (proper_described _) (named?_described (by decide)) _⟩
    rw [List.map_id']
    exact filter_listed fit.named apart
  refuses := by
    rintro state memory name ⟨rfl, same⟩ isTemplate free failing
    have refused : site.madeClone { memory with requests := [] } name =
      (⟨500, "clone failed"⟩, { memory with requests := [] }) := if_pos failing
    refine replies_post fit.usable.query (by decide) ((acted_clone _ _).trans refused)
      ⟨by decide, by decide, fun taken => absurd taken.1 (by decide)⟩ ⟨rfl, same⟩
  denies := by
    rintro state memory name ⟨rfl, same⟩ isTemplate free notFailing isTaken
    have taken : site.madeClone { memory with requests := [] } name =
      (⟨400, "ALREADY_EXISTS"⟩, { memory with requests := [] }) :=
      (if_neg notFailing).trans (if_pos (.inr isTaken))
    refine replies_post fit.usable.query (by decide) ((acted_clone _ _).trans taken)
      ⟨rfl, by decide⟩ ⟨rfl, same⟩
  clones := by
    rintro state memory name ⟨rfl, same⟩ isTemplate free notFailing notTaken
    have made : site.madeClone { memory with requests := [] } name =
        (saying (.ofText (memory.allocate name).1.id),
          { (memory.allocate name).2 with requests := [] }) :=
      (if_neg notFailing).trans (if_neg fun either => either.elim free notTaken)
    exact replies_post fit.usable.query (by decide) ((acted_clone _ _).trans made)
      (conveys_saying (.string _) rfl) ⟨rfl, same⟩

end Site

end Vcenter

end NodeScaler
