import NodeScaler.Inventory.Memory
import NodeScaler.Proofs.Inventory.Reachable
import NodeScaler.Proofs.Vcenter.Requests
import NodeScaler.Provider.Cloning
import NodeScaler.Vcenter.Machine

/-!
# Servers that mirror an inventory in memory

A server mirrors inventories in memory if its responses tell what such an inventory holds: the
tags and the objects that carry them, the machines with their names and identities, and the
templates, which it lists among the machines. Attaching a tag and cloning a machine do to the
inventory what they do to one in memory. Machines are placed in one datacenter, resource pool and
folder. How the server writes its responses, in which order it lists things and what else it tells
does not matter, as long as the session can read it.
-/

namespace NodeScaler.Vcenter

/-- A server as a session sees it, and where machines are made. -/
structure Site where
  /-- The session. -/
  session : Session
  /-- The address of the server. -/
  home : Url
  /-- How machines are made. -/
  cloning : Cloning
  /-- The identifiers of tags, by their names. -/
  tagId : String → String
  /-- The identifier of the datacenter. -/
  datacenter : String
  /-- The identifier of the resource pool. -/
  pool : String
  /-- The identifier of the folder for machines. -/
  folder : String
  /-- The identifier of the template. -/
  source : String
  /-- Names that are not for machines, such as those of templates. -/
  kept : List String
  /-- The time that a response takes at most. -/
  latency : Duration

namespace Site

variable {σ : Type} (site : Site) (handler : Handler Http σ) (shows : σ → Memory → Prop)

/-! ## Addresses -/

/-- The path of the tags. -/
def tags : List String := ["api", "cis", "tagging", "tag"]

/-- The path of the objects that carry a tag. -/
def association (tag : String) : List String :=
  ["api", "cis", "tagging", "tag-association", site.tagId tag]

/-- The path of the machines. -/
def machines : List String := ["api", "vcenter", "vm"]

/-- What selects the resource pool. -/
def poolFields : List (String × String) :=
  ("datacenters", site.datacenter) :: Session.nameField site.cloning.resourcePool

/-- What selects the folder. -/
def folderFields : List (String × String) :=
  [("datacenters", site.datacenter), ("type", "VIRTUAL_MACHINE"), ("names", folderName)]

/-- What selects the template. -/
def templateFields : List (String × String) :=
  [("datacenters", site.datacenter), ("names", site.cloning.template)]

/-- The addresses that are asked about a tag. -/
def tagAddresses (tag : String) : List Url :=
  [site.home.below (tags ++ [site.tagId tag]) [],
    site.home.below (site.association tag) [("action", "list-attached-objects")],
    site.home.below (site.association tag) [("action", "attach")]]

/-- The address that is asked about a machine. -/
def machineAddress (number : Nat) : Url :=
  site.home.below (machines ++ [(Memory.machine number).id]) []

/-- The addresses that are asked when a machine is made. -/
def cloneAddresses : List Url :=
  [site.home.below ["api", "vcenter", "datacenter"] (Session.nameField site.cloning.datacenter),
    site.home.below ["api", "vcenter", "resource-pool"] site.poolFields,
    site.home.below ["api", "vcenter", "folder"] site.folderFields,
    site.home.below machines site.templateFields,
    site.home.below machines [("action", "clone")]]

/-- All addresses that are asked about an inventory. -/
def addresses (memory : Memory) : List Url :=
  site.home.below tags [] :: site.cloneAddresses ++
    (memory.tags.map (·.1)).flatMap site.tagAddresses ++
    (List.range memory.machines.length).map fun index => site.machineAddress (index + 1)

/-! ## Responses -/

/-- A request that reads. -/
def get (segments : List String) (fields : List (String × String)) : HttpRequest :=
  site.session.sent site.home .get segments fields none

/-- A request that acts. -/
def post (segments : List String) (fields : List (String × String)) (body : Option Json.Value) :
    HttpRequest :=
  site.session.sent site.home .post segments fields body

/-- The server responds in time, and then shows an inventory. -/
def Replies (request : HttpRequest) (state : σ) (reply : HttpResponse → Prop) (memory : Memory) :
    Prop :=
  Answers handler site.latency request state reply (shows · memory)

/-- The response lists candidates, of which just those are meant by a name. -/
def Offers (idField name : String) (meant : List (String × String)) (response : HttpResponse) :
    Prop :=
  ∃ candidates, candidates.filter (fun (_, found) => name = "" || found = name) = meant ∧
    Conveys (listOf? (named? idField)) candidates response

/-- The response says that a name is taken. -/
def SaysTaken (response : HttpResponse) : Prop :=
  response.status = 400 ∧ occursIn takenWord response.body.toList = true

/-- The response is an error, but does not say that a name is taken. -/
def Refuses (response : HttpResponse) : Prop :=
  400 ≤ response.status ∧ response.status < 600 ∧ ¬SaysTaken response

/-- The names of the tags of an inventory. -/
def HasTag (memory : Memory) (tag : String) : Prop := (memory.carriers? tag).isSome = true

instance (memory : Memory) (tag : String) : Decidable (HasTag memory tag) :=
  inferInstanceAs (Decidable ((memory.carriers? tag).isSome = true))

/-- The request for a clone of the template. -/
def cloneRequest (name : String) : HttpRequest :=
  site.post machines [("action", "clone")]
    (some (Session.cloneBody site.source name site.folder site.pool))

/-- A server that shows inventories in memory. -/
structure Mirrors : Prop where
  /-- The session can talk to the server. -/
  usable : site.session.Usable site.home
  /-- Responses come in time for the session. -/
  prompt : site.latency.nanoseconds ≤ site.session.timeout.nanoseconds
  /-- The five responses for a clone come in time for it. -/
  inTime : 5 * site.latency.nanoseconds ≤ site.cloning.cloneTimeout.waited.nanoseconds
  /-- The name of the template is not for machines. -/
  keeps : site.cloning.template ∈ site.kept
  /-- The requests that an inventory has noted do not show. -/
  unnoted {state : σ} {memory : Memory} (requests : List CloneRequest) :
    shows state memory → shows state { memory with requests }
  /-- Identifiers of tags are made of letters, digits, hyphens and colons. -/
  isId {state : σ} {memory : Memory} {tag : String} :
    shows state memory → HasTag memory tag → Url.IsId (site.tagId tag)
  /-- The tags are listed by their identifiers. -/
  listsTags {state : σ} {memory : Memory} : shows state memory →
    site.Replies handler shows (site.get tags []) state
      (fun response => ∃ ids, (∃ names : List String, ids = names.map site.tagId ∧
        ∀ tag, tag ∈ names ↔ HasTag memory tag) ∧ Conveys (listOf? Json.Value.text?) ids response)
      memory
  /-- A tag is described by its identifier and its name. -/
  describesTag {state : σ} {memory : Memory} {tag : String} : shows state memory →
    HasTag memory tag → site.Replies handler shows (site.get (tags ++ [site.tagId tag]) []) state
      (Conveys (named? "id") (site.tagId tag, tag)) memory
  /-- The objects that carry a tag are listed. -/
  listsCarriers {state : σ} {memory : Memory} {tag : String} : shows state memory →
    HasTag memory tag → site.Replies handler shows
      (site.post (site.association tag) [("action", "list-attached-objects")] none) state
      (fun response => ∃ objects, (∀ object, object ∈ objects ↔ object ∈ memory.carrying tag) ∧
        Conveys (listOf? ObjectRef.ofJson?) objects response) memory
  /-- A tag is attached to a machine. -/
  attaches {state : σ} {memory : Memory} {tag : String} {object : ObjectRef} :
    shows state memory → HasTag memory tag → memory.Has object →
      site.Replies handler shows
        (site.post (site.association tag) [("action", "attach")]
          (some (Session.attachment object))) state
        (fun response => 200 ≤ response.status ∧ response.status < 300) (memory.putTag object tag)
  /-- A machine is described by its name and its identity. -/
  describesMachine {state : σ} {memory : Memory} {number : Nat} {name : String} :
    shows state memory → memory.find? (Memory.machine number) = some (number, name) →
      site.Replies handler shows (site.get (machines ++ [(Memory.machine number).id]) []) state
        (Conveys MachineInfo.ofJson? ⟨name, some (Memory.uuidOf number)⟩) memory
  /-- There is one datacenter that is meant. -/
  offersDatacenter {state : σ} {memory : Memory} : shows state memory →
    site.Replies handler shows
      (site.get ["api", "vcenter", "datacenter"] (Session.nameField site.cloning.datacenter)) state
      (fun response => ∃ name,
        Offers "datacenter" site.cloning.datacenter [(site.datacenter, name)] response) memory
  /-- There is one resource pool that is meant. -/
  offersPool {state : σ} {memory : Memory} : shows state memory →
    site.Replies handler shows (site.get ["api", "vcenter", "resource-pool"] site.poolFields) state
      (fun response => ∃ name,
        Offers "resource_pool" site.cloning.resourcePool [(site.pool, name)] response) memory
  /-- There is one folder for machines. -/
  offersFolder {state : σ} {memory : Memory} : shows state memory →
    site.Replies handler shows (site.get ["api", "vcenter", "folder"] site.folderFields) state
      (fun response => ∃ name, Offers "folder" folderName [(site.folder, name)] response) memory
  /-- The template is listed among the machines, unless there is none. -/
  offersTemplate {state : σ} {memory : Memory} : shows state memory →
    site.cloning.template ∉ memory.machines →
      site.Replies handler shows (site.get machines site.templateFields) state
        (Offers "vm" site.cloning.template (if site.cloning.template ∈ memory.templates then
          [(site.source, site.cloning.template)] else [])) memory
  /-- Some names cannot be cloned. -/
  refuses {state : σ} {memory : Memory} {name : String} : shows state memory →
    site.cloning.template ∈ memory.templates → name ∉ site.kept → name ∈ memory.failing →
      site.Replies handler shows (site.cloneRequest name) state Refuses memory
  /-- A name that is taken is said to be so. -/
  denies {state : σ} {memory : Memory} {name : String} : shows state memory →
    site.cloning.template ∈ memory.templates → name ∉ site.kept → name ∉ memory.failing →
      name ∈ memory.machines →
        site.Replies handler shows (site.cloneRequest name) state SaysTaken memory
  /-- Any other name makes a machine, which gets the next number. -/
  clones {state : σ} {memory : Memory} {name : String} : shows state memory →
    site.cloning.template ∈ memory.templates → name ∉ site.kept → name ∉ memory.failing →
      name ∉ memory.machines → site.Replies handler shows (site.cloneRequest name) state
        (Conveys Json.Value.text? (memory.allocate name).1.id) (memory.allocate name).2

/-- All addresses that are asked about an inventory are short enough. -/
def Addressable (memory : Memory) : Prop :=
  ∀ url ∈ site.addresses memory, url.isRequestable = true

instance (memory : Memory) : Decidable (site.Addressable memory) :=
  inferInstanceAs (Decidable (∀ url ∈ site.addresses memory, url.isRequestable = true))

/-! ## Addresses in use -/

variable {site handler shows} {memory : Memory}

/-- The addresses of a tag are among those of an inventory that has it. -/
theorem Addressable.tag (addressable : site.Addressable memory) {tag : String}
    (hasTag : HasTag memory tag) {url : Url} (isAddress : url ∈ site.tagAddresses tag) :
    url.isRequestable = true := by
  obtain ⟨carriers, found⟩ := Option.isSome_iff_exists.1 hasTag
  obtain ⟨before, after, split, -⟩ := List.lookup_eq_some_iff.1 found
  have isTag : tag ∈ memory.tags.map (·.1) := by simp [split]
  apply addressable
  refine List.mem_append_left _ (List.mem_append_right _ (List.mem_flatMap.2 ?_))
  exact ⟨tag, isTag, isAddress⟩

/-- The address of a machine is among those of its inventory. -/
theorem Addressable.machine (addressable : site.Addressable memory) {index : Nat}
    (isMachine : index < memory.machines.length) :
    (site.machineAddress (index + 1)).isRequestable = true := by
  apply addressable
  refine List.mem_append_right _ (List.mem_map.2 ⟨index, ?_, rfl⟩)
  exact List.mem_range.2 isMachine

/-- The addresses for a clone are among those of any inventory. -/
theorem Addressable.clone (addressable : site.Addressable memory) {url : Url}
    (isAddress : url ∈ site.cloneAddresses) : url.isRequestable = true := by
  apply addressable
  exact List.mem_append_left _ (List.mem_append_left _ (List.mem_cons_of_mem _ isAddress))

/-- The session sends requests to short addresses of plain segments. -/
theorem Mirrors.sends (mirrors : site.Mirrors handler shows) (method : HttpMethod)
    (body : Option Json.Value) {path : String} {segments : List String}
    {fields : List (String × String)} (nonempty : segments ≠ [])
    (plain : ∀ segment ∈ segments, Url.IsId segment)
    (written : path.toList = Url.pathChars segments)
    (requestable : (site.home.below segments fields).isRequestable = true) :
    Sends (site.session.sent site.home method segments fields body) site.session.timeout
      (site.session.send method path fields body).run :=
  sends_send (mirrors.usable.request? method nonempty plain written fields body) requestable

/-- A path that ends with an identifier is plain. -/
theorem plain_append (front : List String) (plain : ∀ segment ∈ front, Url.IsId segment)
    {id : String} (isId : Url.IsId id) : ∀ segment ∈ front ++ [id], Url.IsId segment := by
  intro segment isIn
  rcases List.mem_append.1 isIn with isIn | isIn
  · exact plain segment isIn
  · rw [List.mem_singleton.1 isIn]
    exact isId

/-- The identifiers of machines are plain. -/
theorem isId_machine (number : Nat) : Url.IsId (Memory.machine number).id := by
  intro c isIn
  have characters : (Memory.machine number).id.toList =
      'v' :: 'm' :: '-' :: Nat.toDigits 10 number := by
    simp [Memory.machine, ObjectRef.vm]
  rw [characters] at isIn
  simp only [List.mem_cons] at isIn
  rcases isIn with rfl | rfl | rfl | isDigit
  · decide
  · decide
  · decide
  · have digit := Nat.isDigit_of_mem_toDigits (by decide) (by decide) isDigit
    simp [Url.isIdChar, Char.isAlphanum, digit]

/-- Writing an identifier behind a path is writing it as the last segment. -/
theorem written_append {path : String} {front : List String}
    (written : path.toList = Url.pathChars front ++ ['/']) (id : String) :
    (path ++ id).toList = Url.pathChars (front ++ [id]) := by
  rw [String.toList_append, written, Url.pathChars, Url.pathChars, List.flatMap_append,
    List.append_assoc]
  simp

/-- The paths of tags. -/
theorem written_tags :
    "/api/cis/tagging/tag".toList = Url.pathChars tags ∧
      "/api/cis/tagging/tag/".toList = Url.pathChars tags ++ ['/'] ∧
      "/api/cis/tagging/tag-association/".toList =
        Url.pathChars ["api", "cis", "tagging", "tag-association"] ++ ['/'] := by
  decide

/-- The paths for machines. -/
theorem written_machines :
    "/api/vcenter/vm".toList = Url.pathChars machines ∧
      "/api/vcenter/vm/".toList = Url.pathChars machines ++ ['/'] ∧
      "/api/vcenter/datacenter".toList = Url.pathChars ["api", "vcenter", "datacenter"] ∧
      "/api/vcenter/resource-pool".toList = Url.pathChars ["api", "vcenter", "resource-pool"] ∧
      "/api/vcenter/folder".toList = Url.pathChars ["api", "vcenter", "folder"] := by
  decide

/-! ## Reading -/

variable {state : σ}

/-- The description of a tag is read. -/
theorem Mirrors.tag (mirrors : site.Mirrors handler shows) (addressable : site.Addressable memory)
    (isShown : shows state memory) {tag : String} (hasTag : HasTag memory tag) :
    (site.session.tag (site.tagId tag)).run.Settles handler (shows · memory)
      (· = .ok (site.tagId tag, tag)) := by
  have plain := plain_append tags (by decide) (mirrors.isId isShown hasTag)
  have sends := mirrors.sends .get none (by simp) plain (written_append written_tags.2.1 _)
    (addressable.tag hasTag List.mem_cons_self)
  apply fetch_settles sends mirrors.prompt fun state isShown =>
    mirrors.describesTag isShown hasTag
  exact fun response conveyed => conveyed

/-- The first tag of a name is found if it is listed. -/
theorem Mirrors.firstNamed (mirrors : site.Mirrors handler shows)
    (addressable : site.Addressable memory) (isShown : shows state memory) (tag : String)
    {names : List String} (known : ∀ name ∈ names, HasTag memory name) :
    (site.session.firstNamed tag (names.map site.tagId)).run.Settles handler (shows · memory)
      (· = .ok (if tag ∈ names then some (site.tagId tag) else none)) := by
  induction names with
  | nil => exact .done rfl
  | cons first rest inductionHypothesis =>
    have hasFirst := known first List.mem_cons_self
    have behind := inductionHypothesis fun name isIn => known name (List.mem_cons_of_mem _ isIn)
    rw [List.map_cons, Session.firstNamed]
    apply Plan.Settles.attempt (mirrors.tag addressable isShown hasFirst)
    by_cases same : first = tag
    · subst same
      simp only [List.mem_cons_self, if_true]
      exact .done rfl
    · have others : (tag ∈ first :: rest) = (tag ∈ rest) := by
        simp [show tag ≠ first from fun isFirst => same isFirst.symm]
      simp only [others, if_neg same]
      exact behind

/-- The identifier of a tag is found. -/
theorem Mirrors.tagId? (mirrors : site.Mirrors handler shows)
    (addressable : site.Addressable memory) (isShown : shows state memory) (tag : String) :
    (site.session.tagId? tag).run.Settles handler (shows · memory)
      (· = .ok (if HasTag memory tag then some (site.tagId tag) else none)) := by
  have sends := mirrors.sends .get none (by decide) (by decide) written_tags.1
    (addressable _ List.mem_cons_self)
  have listed : (site.session.fetch (listOf? Json.Value.text?) .get "/api/cis/tagging/tag"
      []).run.Settles handler (shows · memory) fun result => ∃ ids, result = .ok ids ∧
        ∃ names : List String, ids = names.map site.tagId ∧
          ∀ tag, tag ∈ names ↔ HasTag memory tag := by
    apply fetch_settles sends mirrors.prompt fun state isShown => mirrors.listsTags isShown
    rintro response ⟨ids, names, conveyed⟩
    exact ⟨ids, conveyed, names⟩
  refine Plan.Settles.attemptSome listed ?_
  rintro ids ⟨names, rfl, all⟩
  have found := mirrors.firstNamed addressable isShown tag fun name isIn => (all name).1 isIn
  simp only [all tag] at found
  exact found

/-- The objects that carry a tag are found, in whatever order they are listed. -/
theorem Mirrors.carriers (mirrors : site.Mirrors handler shows)
    (addressable : site.Addressable memory) (isShown : shows state memory) (tag : String) :
    (site.session.carriers tag).run.Settles handler (shows · memory)
      (· = .ok (memory.carrying tag)) := by
  refine Plan.Settles.attempt (mirrors.tagId? addressable isShown tag) ?_
  by_cases hasTag : HasTag memory tag
  · have plain : ∀ segment ∈ site.association tag, Url.IsId segment :=
      plain_append ["api", "cis", "tagging", "tag-association"] (by decide)
        (mirrors.isId isShown hasTag)
    have sends := mirrors.sends .post none (List.cons_ne_nil _ _) plain
      (written_append written_tags.2.2 _) (addressable.tag hasTag
        (List.mem_cons_of_mem _ List.mem_cons_self))
    have listed : (site.session.fetch (listOf? ObjectRef.ofJson?) .post
        (Session.associationPath (site.tagId tag))
        [("action", "list-attached-objects")]).run.Settles handler (shows · memory)
          fun result => ∃ objects, result = .ok objects ∧
            ∀ object, object ∈ objects ↔ object ∈ memory.carrying tag := by
      apply fetch_settles sends mirrors.prompt fun state isShown =>
        mirrors.listsCarriers isShown hasTag
      rintro response ⟨objects, all, conveyed⟩
      exact ⟨objects, conveyed, all⟩
    simp only [if_pos hasTag]
    refine Plan.Settles.attemptSome listed fun objects all => ?_
    have same : RefSet.ofList objects = memory.carrying tag := by
      apply RefSet.eq_of_mem
      intro object
      rw [RefSet.mem_ofList]
      exact all object
    exact .done (congrArg Except.ok same)
  · have none : memory.carriers? tag = .none := by
      simpa [HasTag, Option.isSome_iff_ne_none] using hasTag
    rw [if_neg hasTag, Memory.carrying, none]
    exact .done rfl

/-- The description of a machine is read. -/
theorem Mirrors.machine (mirrors : site.Mirrors handler shows)
    (addressable : site.Addressable memory) {object : ObjectRef} {number : Nat} {name : String}
    (found : memory.find? object = some (number, name)) :
    (site.session.machine object).run.Settles handler (shows · memory)
      (· = .ok ⟨name, some (Memory.uuidOf number)⟩) := by
  obtain ⟨index, isMachine, rfl, rfl⟩ := Memory.index_of_find? found
  have plain := plain_append machines (by decide) (isId_machine (index + 1))
  have sends := mirrors.sends .get none (by simp) plain (written_append written_machines.2.1 _)
    (addressable.machine isMachine)
  apply fetch_settles sends mirrors.prompt fun state isShown =>
    mirrors.describesMachine isShown found
  exact fun response conveyed => conveyed

/-- The name of a machine is read. -/
theorem Mirrors.machineName (mirrors : site.Mirrors handler shows)
    (addressable : site.Addressable memory) {object : ObjectRef} {number : Nat} {name : String}
    (found : memory.find? object = some (number, name)) :
    (site.session.machineName object).run.Settles handler (shows · memory) (· = .ok name) := by
  apply Plan.Settles.attempt (mirrors.machine addressable found)
  exact .done rfl

/-- The identity of a machine is read. -/
theorem Mirrors.machineUuid (mirrors : site.Mirrors handler shows)
    (addressable : site.Addressable memory) {object : ObjectRef} {number : Nat} {name : String}
    (found : memory.find? object = some (number, name)) :
    (site.session.machineUuid object).run.Settles handler (shows · memory)
      (· = .ok (Memory.uuidOf number)) := by
  apply Plan.Settles.attempt (mirrors.machine addressable found)
  exact .done rfl

end Site

end NodeScaler.Vcenter
