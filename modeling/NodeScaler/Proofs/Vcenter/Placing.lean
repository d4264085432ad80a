import NodeScaler.Proofs.Http.Address
import NodeScaler.Proofs.Vcenter.Asking
import NodeScaler.Proofs.Vcenter.Obtaining

/-!
# Where a clone is placed

A clone is placed by four lookups, one after the other: those of the datacenter, of the resource pool,
of the folder and of the template. Each must find exactly one candidate of its name, or exactly one at
all if the name is empty, and the first one that does not is the last request that is made. Otherwise
the clone is asked for once, by the last request, with the identifiers that were found.
-/

namespace NodeScaler.Vcenter

open Plan (Concludes)

variable {σ : Type} {session : Session} {request : CloneRequest} {exchanges : List (Exchange Http)}
  {server : Handler Http σ} {state : σ}

/-! ## Candidates -/

/-- The candidate has the name, if there is one. -/
def Wanted (name : String) (candidate : String × String) : Prop := name = "" ∨ candidate.2 = name

instance (name : String) (candidate : String × String) : Decidable (Wanted name candidate) :=
  inferInstanceAs (Decidable (_ ∨ _))

/-- What is said when there is no candidate. -/
def missingText (kind name : String) : String :=
  if name = "" then "default " ++ kind else kind ++ " " ++ name

/-- What comes of candidates: one of them is wanted, or none is, or there are several. -/
inductive Picks (kind name : String) (candidates : List (String × String)) :
    Except InventoryError String → Prop where
  /-- Exactly one is wanted. -/
  | only {candidate : String × String} (isIn : candidate ∈ candidates) (wanted : Wanted name candidate)
      (alone : candidates.countP (Wanted name ·) = 1) : Picks kind name candidates (.ok candidate.1)
  /-- None is wanted. -/
  | absent (none : ∀ candidate ∈ candidates, ¬Wanted name candidate) :
      Picks kind name candidates (.error (.notFound (missingText kind name)))
  /-- Several are wanted. -/
  | ambiguous {count : Nat} (isCount : candidates.countP (Wanted name ·) = count)
      (several : 2 ≤ count) : Picks kind name candidates (.error (.ambiguous kind count))

/-- What is picked is what comes of the candidates. -/
theorem pick_eq_iff {kind name : String} {candidates : List (String × String)}
    {result : Except InventoryError String} :
    pick kind name candidates = result ↔ Picks kind name candidates result := by
  have filtered (wants : String × String → Bool)
      (same : ∀ candidate, wants candidate = decide (Wanted name candidate)) :
      candidates.filter wants = candidates.filter (Wanted name ·) :=
    List.filter_congr fun candidate _ => same candidate
  have isCount := List.countP_eq_length_filter (p := (Wanted name ·)) (l := candidates)
  have isWanted (candidate : String × String) : candidate ∈ candidates.filter (Wanted name ·) ↔
      candidate ∈ candidates ∧ Wanted name candidate := by
    rw [List.mem_filter, decide_eq_true_iff]
  have missing : (if name = "" then .error (.notFound ("default " ++ kind))
      else .error (.notFound (kind ++ " " ++ name)) : Except InventoryError String) =
        .error (.notFound (missingText kind name)) :=
    (apply_ite (fun text => (.error (.notFound text) : Except InventoryError String)) _ _ _).symm
  rw [pick, filtered _ fun candidate => (Bool.decide_or (name = "") (candidate.2 = name)).symm]
  generalize candidates.filter (Wanted name ·) = matching at isCount isWanted
  constructor
  · rintro rfl
    rcases matching with - | ⟨candidate, - | ⟨second, rest⟩⟩
    · change Picks kind name candidates (if name = "" then _ else _)
      rw [missing]
      exact .absent fun candidate isIn wanted =>
        List.not_mem_nil ((isWanted candidate).2 ⟨isIn, wanted⟩)
    · obtain ⟨isIn, wanted⟩ := (isWanted candidate).1 List.mem_cons_self
      exact .only isIn wanted isCount
    · exact .ambiguous isCount (by simp)
  · intro picks
    cases picks with
    | only isIn wanted alone =>
      obtain ⟨other, rfl⟩ := List.length_eq_one_iff.1 (isCount.symm.trans alone)
      rw [List.mem_singleton.1 ((isWanted _).2 ⟨isIn, wanted⟩)]
    | absent none =>
      rw [List.eq_nil_iff_forall_not_mem.2 fun candidate isIn =>
        none candidate ((isWanted candidate).1 isIn).1 ((isWanted candidate).1 isIn).2]
      exact missing
    | ambiguous isSum several =>
      obtain rfl := isSum.symm.trans isCount
      rcases matching with - | ⟨candidate, - | ⟨second, rest⟩⟩
      · simp at several
      · simp at several
      · rfl

/-! ## Lookups -/

/-- A lookup of candidates. -/
structure Search where
  /-- What is looked for. -/
  kind : String
  /-- The field for the identifiers of candidates. -/
  idField : String
  /-- The path of the request. -/
  path : String
  /-- The name that is wanted. -/
  name : String
  /-- The fields of the request. -/
  fields : List (String × String)

/-- The lookup of a datacenter. -/
def Search.datacenter (name : String) : Search :=
  ⟨"datacenter", "datacenter", "/api/vcenter/datacenter", name, Session.nameField name⟩

/-- The lookup of a resource pool. -/
def Search.pool (datacenter name : String) : Search :=
  ⟨"resource pool", "resource_pool", "/api/vcenter/resource-pool", name,
    ("datacenters", datacenter) :: Session.nameField name⟩

/-- The lookup of the folder for machines. -/
def Search.folder (datacenter : String) : Search :=
  ⟨"folder", "folder", "/api/vcenter/folder", folderName,
    [("datacenters", datacenter), ("type", "VIRTUAL_MACHINE"), ("names", folderName)]⟩

/-- The lookup of a template. -/
def Search.template (datacenter name : String) : Search :=
  ⟨"template", "vm", "/api/vcenter/vm", name, [("datacenters", datacenter), ("names", name)]⟩

/-- The request of a lookup. -/
def Session.searchRequest? (session : Session) (search : Search) : Option HttpRequest :=
  session.request? .get search.path search.fields none

/-- What comes of a lookup: its request fails, or something is picked from the candidates that are
listed. -/
inductive Session.Yields (session : Session) (search : Search) :
    List (Exchange Http) → Except InventoryError String → Prop where
  /-- The candidates cannot be listed. -/
  | failed {exchanges : List (Exchange Http)} {error : InventoryError}
      (fails : session.Obtains (listOf? (named? search.idField)) (session.searchRequest? search)
        exchanges (.error error)) : Yields session search exchanges (.error error)
  /-- Candidates are listed. -/
  | listed {exchanges : List (Exchange Http)} {candidates : List (String × String)}
      {result : Except InventoryError String}
      (lists : session.Obtains (listOf? (named? search.idField)) (session.searchRequest? search)
        exchanges (.ok candidates))
      (picks : Picks search.kind search.name candidates result) :
      Yields session search exchanges result

/-- What is concluded from a lookup. -/
theorem find_concludes {search : Search} {result : Except InventoryError String} :
    (session.find search.kind search.idField search.path search.name search.fields).run.Concludes
      exchanges result ↔ session.Yields search exchanges result := by
  unfold Session.find
  rw [Plan.concludes_attempt]
  simp only [fetch_concludes]
  constructor
  · rintro (⟨error, rfl, fails⟩ | ⟨candidates, before, after, rfl, lists, picks⟩)
    · exact .failed fails
    · obtain ⟨rfl, isPick⟩ := Plan.concludes_done.1 picks
      rw [List.append_nil]
      exact .listed lists (pick_eq_iff.1 isPick.symm)
  · intro yields
    cases yields with
    | failed fails => exact .inl ⟨_, rfl, fails⟩
    | listed lists picks =>
      exact .inr ⟨_, _, [], (List.append_nil _).symm, lists,
        Plan.concludes_done.2 ⟨rfl, (pick_eq_iff.2 picks).symm⟩⟩

/-- The lookup is answered in time by a success with a list of candidates, and exactly one of them is
wanted. -/
structure Session.Selects (session : Session) (search : Search) (lookup : Exchange Http) (id : String) :
    Prop where
  /-- The request is that of the lookup. -/
  isRequest : session.searchRequest? search = some lookup.question
  /-- It can be made. -/
  requestable : lookup.question.url.isRequestable = true
  /-- It is answered so. -/
  answered : ∃ after response candidates name, lookup.answer = Reaction.response after response ∧
    Reaction.IsPrompt session.timeout (.response after response) ∧ IsSuccess response ∧
    (Json.Value.read? response.body.toList).bind (listOf? (named? search.idField)) = some candidates ∧
    (id, name) ∈ candidates ∧ Wanted search.name (id, name) ∧
    candidates.countP (Wanted search.name ·) = 1

/-- A response is received when the host responds in time. -/
theorem receives_ok {request? : Option HttpRequest} {response : HttpResponse}
    (receives : session.Receives request? exchanges (.ok response)) :
    ∃ order after, request? = some order ∧ order.url.isRequestable = true ∧
      Reaction.IsPrompt session.timeout (.response after response) ∧
      exchanges = [⟨order, .response after response⟩] := by
  cases receives with
  | response isRequest requestable prompt => exact ⟨_, _, isRequest, requestable, prompt, rfl⟩

/-- A lookup that finds an identifier is one exchange, which selects it. -/
theorem yields_ok {search : Search} {id : String} :
    session.Yields search exchanges (.ok id) ↔
      ∃ lookup, exchanges = [lookup] ∧ session.Selects search lookup id := by
  constructor
  · intro yields
    generalize isOk : Except.ok id = result at yields
    cases yields with
    | failed => cases isOk
    | listed lists picks =>
      cases picks with
      | only isIn wanted alone =>
        cases isOk
        cases lists with
        | answered receives said =>
          obtain ⟨order, after, isRequest, requestable, prompt, rfl⟩ := receives_ok receives
          cases said with
          | value success stands =>
            exact ⟨_, rfl, isRequest, requestable, after, _, _, _, rfl, prompt, success, stands, isIn,
              wanted, alone⟩
      | absent | ambiguous => cases isOk
  · rintro ⟨⟨order, reaction⟩, rfl, isRequest, requestable, after, response, candidates, name, rfl,
      prompt, success, stands, isIn, wanted, alone⟩
    exact .listed (.answered (.response isRequest requestable prompt) (.value success stands))
      (.only isIn wanted alone)

/-! ## Placement -/

/-- Where a clone is placed. -/
structure Placement where
  /-- The identifier of the template. -/
  source : String
  /-- The identifier of the folder. -/
  folder : String
  /-- The identifier of the resource pool. -/
  pool : String

/-- The lookups for a clone. -/
def Session.locate (session : Session) (request : CloneRequest) :
    Attempt Http InventoryError Placement := do
  let datacenter ← session.datacenter request.datacenter
  let pool ← session.resourcePool datacenter request.resourcePool
  let folder ← session.folder datacenter
  let source ← session.template datacenter request.template
  return ⟨source, folder, pool⟩

/-- The request for a clone of a name. -/
def Session.orderRequest? (session : Session) (name : String) (placement : Placement) :
    Option HttpRequest :=
  session.request? .post "/api/vcenter/vm" [("action", "clone")]
    (some (Session.cloneBody placement.source name placement.folder placement.pool))

/-- Asks for a clone of a name, and waits for the response. -/
def Session.order (session : Session) (name : String) (placement : Placement) :
    Attempt Http InventoryError ObjectRef := do
  let response ← (attempt Http.exchange (session.orderRequest? name placement)).mapError
    fun failure => .request failure.message
  return .vm (← ExceptT.mk (pure (decoded Json.Value.text? response)))

/-- A clone is placed first, and then asked for. -/
theorem clone_eq (session : Session) (request : CloneRequest) :
    session.clone request = session.locate request >>= session.order request.name := by
  unfold Session.clone Session.locate
  simp only [bind_assoc, pure_bind]
  rfl

/-- What comes of the four lookups for a clone. Each needs the ones before it, and the first one that
fails is the last one. -/
inductive Session.Locates (session : Session) (request : CloneRequest) :
    List (Exchange Http) → Except InventoryError Placement → Prop where
  /-- The datacenter is not found. -/
  | datacenter {exchanges : List (Exchange Http)} {error : InventoryError}
      (fails : session.Yields (.datacenter request.datacenter) exchanges (.error error)) :
      Locates session request exchanges (.error error)
  /-- The resource pool is not found. -/
  | pool {first second : List (Exchange Http)} {datacenter : String} {error : InventoryError}
      (isDatacenter : session.Yields (.datacenter request.datacenter) first (.ok datacenter))
      (fails : session.Yields (.pool datacenter request.resourcePool) second (.error error)) :
      Locates session request (first ++ second) (.error error)
  /-- The folder is not found. -/
  | folder {first second third : List (Exchange Http)} {datacenter pool : String}
      {error : InventoryError}
      (isDatacenter : session.Yields (.datacenter request.datacenter) first (.ok datacenter))
      (isPool : session.Yields (.pool datacenter request.resourcePool) second (.ok pool))
      (fails : session.Yields (.folder datacenter) third (.error error)) :
      Locates session request (first ++ (second ++ third)) (.error error)
  /-- The template is not found. -/
  | template {first second third fourth : List (Exchange Http)} {datacenter pool folder : String}
      {error : InventoryError}
      (isDatacenter : session.Yields (.datacenter request.datacenter) first (.ok datacenter))
      (isPool : session.Yields (.pool datacenter request.resourcePool) second (.ok pool))
      (isFolder : session.Yields (.folder datacenter) third (.ok folder))
      (fails : session.Yields (.template datacenter request.template) fourth (.error error)) :
      Locates session request (first ++ (second ++ (third ++ fourth))) (.error error)
  /-- All are found. -/
  | placed {first second third fourth : List (Exchange Http)} {datacenter : String}
      {placement : Placement}
      (isDatacenter : session.Yields (.datacenter request.datacenter) first (.ok datacenter))
      (isPool : session.Yields (.pool datacenter request.resourcePool) second (.ok placement.pool))
      (isFolder : session.Yields (.folder datacenter) third (.ok placement.folder))
      (isSource : session.Yields (.template datacenter request.template) fourth
        (.ok placement.source)) :
      Locates session request (first ++ (second ++ (third ++ fourth))) (.ok placement)

/-- What is concluded from the lookups for a clone. -/
theorem locate_concludes {result : Except InventoryError Placement} :
    (session.locate request).run.Concludes exchanges result ↔
      session.Locates request exchanges result := by
  have datacenter (exchanges : List (Exchange Http)) (result : Except InventoryError String) :
      (session.datacenter request.datacenter).run.Concludes exchanges result ↔ _ :=
    @find_concludes session exchanges (.datacenter request.datacenter) result
  have pool (datacenter : String) (exchanges : List (Exchange Http))
      (result : Except InventoryError String) :
      (session.resourcePool datacenter request.resourcePool).run.Concludes exchanges result ↔ _ :=
    @find_concludes session exchanges (.pool datacenter request.resourcePool) result
  have folder (datacenter : String) (exchanges : List (Exchange Http))
      (result : Except InventoryError String) :
      (session.folder datacenter).run.Concludes exchanges result ↔ _ :=
    @find_concludes session exchanges (.folder datacenter) result
  have template (datacenter : String) (exchanges : List (Exchange Http))
      (result : Except InventoryError String) :
      (session.template datacenter request.template).run.Concludes exchanges result ↔ _ :=
    @find_concludes session exchanges (.template datacenter request.template) result
  unfold Session.locate
  simp only [Plan.concludes_attempt, datacenter, pool, folder, template]
  constructor
  · rintro (⟨error, rfl, fails⟩ | ⟨datacenter, first, _, rfl, isDatacenter,
      ⟨error, rfl, fails⟩ | ⟨pool, second, _, rfl, isPool,
      ⟨error, rfl, fails⟩ | ⟨folder, third, _, rfl, isFolder,
      ⟨error, rfl, fails⟩ | ⟨source, fourth, rest, rfl, isSource, ends⟩⟩⟩⟩)
    · exact .datacenter fails
    · exact .pool isDatacenter fails
    · exact .folder isDatacenter isPool fails
    · exact .template isDatacenter isPool isFolder fails
    · obtain ⟨rfl, rfl⟩ := Plan.concludes_done.1 ends
      rw [List.append_nil]
      exact .placed isDatacenter isPool isFolder isSource
  · intro locates
    cases locates with
    | datacenter fails => exact .inl ⟨_, rfl, fails⟩
    | pool isDatacenter fails =>
      exact .inr ⟨_, _, _, rfl, isDatacenter, .inl ⟨_, rfl, fails⟩⟩
    | folder isDatacenter isPool fails =>
      exact .inr ⟨_, _, _, rfl, isDatacenter, .inr ⟨_, _, _, rfl, isPool, .inl ⟨_, rfl, fails⟩⟩⟩
    | template isDatacenter isPool isFolder fails =>
      exact .inr ⟨_, _, _, rfl, isDatacenter, .inr ⟨_, _, _, rfl, isPool,
        .inr ⟨_, _, _, rfl, isFolder, .inl ⟨_, rfl, fails⟩⟩⟩⟩
    | placed isDatacenter isPool isFolder isSource =>
      exact .inr ⟨_, _, _, rfl, isDatacenter, .inr ⟨_, _, _, rfl, isPool,
        .inr ⟨_, _, _, rfl, isFolder, .inr ⟨_, _, [], (List.append_nil _).symm, isSource,
          Plan.concludes_done.2 ⟨rfl, rfl⟩⟩⟩⟩⟩

/-- What is told when a clone has been asked for: what the response says, whenever it comes. There is no
deadline. -/
inductive Told (order : HttpRequest) : Reaction → Option (Except InventoryError ObjectRef) → Prop where
  /-- There is a response. -/
  | response {after : Duration} {response : HttpResponse} {result : Except InventoryError String}
      (said : Says Json.Value.text? response result) :
      Told order (.response after response) (some (result.map .vm))
  /-- The connection breaks. -/
  | broken (after : Duration) : Told order (.broken after)
      (some (.error (.request (SendFailure.unanswered order.url).message)))
  /-- A redirect leads nowhere. -/
  | lost (after : Duration) (failure : RedirectFailure) : Told order (.lost after failure)
      (some (.error (.request (SendFailure.misled failure).message)))
  /-- Nothing ever happens. -/
  | silence : Told order .silence none

/-- All four lookups have selected what they look for, each by one exchange and in this order. -/
inductive Session.Places (session : Session) (request : CloneRequest) :
    List (Exchange Http) → Placement → Prop where
  /-- The datacenter, the resource pool, the folder and the template are selected. -/
  | intro {first second third fourth : Exchange Http} {datacenter : String} {placement : Placement}
      (isDatacenter : session.Selects (.datacenter request.datacenter) first datacenter)
      (isPool : session.Selects (.pool datacenter request.resourcePool) second placement.pool)
      (isFolder : session.Selects (.folder datacenter) third placement.folder)
      (isSource : session.Selects (.template datacenter request.template) fourth placement.source) :
      Places session request [first, second, third, fourth] placement

/-- A placement is located when the four lookups select it. -/
theorem locates_ok {placement : Placement} :
    session.Locates request exchanges (.ok placement) ↔ session.Places request exchanges placement := by
  constructor
  · intro locates
    cases locates with
    | placed isDatacenter isPool isFolder isSource =>
      obtain ⟨first, rfl, selectsDatacenter⟩ := yields_ok.1 isDatacenter
      obtain ⟨second, rfl, selectsPool⟩ := yields_ok.1 isPool
      obtain ⟨third, rfl, selectsFolder⟩ := yields_ok.1 isFolder
      obtain ⟨fourth, rfl, selectsSource⟩ := yields_ok.1 isSource
      exact .intro selectsDatacenter selectsPool selectsFolder selectsSource
  · intro places
    cases places with
    | intro isDatacenter isPool isFolder isSource =>
      exact .placed (yields_ok.2 ⟨_, rfl, isDatacenter⟩) (yields_ok.2 ⟨_, rfl, isPool⟩)
        (yields_ok.2 ⟨_, rfl, isFolder⟩) (yields_ok.2 ⟨_, rfl, isSource⟩)

/-- What comes of a clone. -/
inductive Session.Fulfils (session : Session) (request : CloneRequest) :
    List (Exchange Http) → Option (Except InventoryError ObjectRef) → Prop where
  /-- A lookup fails, and its failure is the result. -/
  | unplaced {lookups : List (Exchange Http)} {error : InventoryError}
      (locates : session.Locates request lookups (.error error)) :
      Fulfils session request lookups (some (.error error))
  /-- The lookups select a placement, and the clone is asked for there. -/
  | ordered {lookups : List (Exchange Http)} {placement : Placement} {order : HttpRequest}
      {reaction : Reaction} {value : Option (Except InventoryError ObjectRef)}
      (places : session.Places request lookups placement)
      (isOrder : session.orderRequest? request.name placement = some order)
      (told : Told order reaction value) :
      Fulfils session request (lookups ++ [⟨order, reaction⟩]) value

/-- The lookups for a clone read. -/
theorem locate_asks (session : Session) (request : CloneRequest) :
    (session.locate request).run.Asks (I := Http) session.Reads False := by
  refine (find_asks _ _ _ _ (by decide) _).attempt fun datacenter => ?_
  refine (find_asks _ _ _ _ (by decide) _).attempt fun pool => ?_
  refine (find_asks _ _ _ _ (by decide) _).attempt fun folder => ?_
  exact (find_asks _ _ _ _ (by decide) _).attempt fun source => .done _

/-- The lookups for a clone change nothing. -/
theorem Session.Locates.reads {result : Except InventoryError Placement}
    (locates : session.Locates request exchanges result) :
    ∀ lookup ∈ exchanges, lookup.question.method = .get := by
  intro lookup isIn
  obtain ⟨time, hears⟩ := locate_concludes.2 locates
  obtain ⟨path, fields, -, asked⟩ := (locate_asks session request).hears hears lookup isIn
  obtain ⟨url, -, isRequest⟩ := Session.request?_eq_some asked
  rw [isRequest]

/-- The last request, after lookups that change nothing, asks for the clone where it is placed. -/
structure Session.Ordered (session : Session) (request : CloneRequest) (placement : Placement)
    (lookups : List (Exchange Http)) (order : Exchange Http) : Prop where
  /-- It is the request for the clone. -/
  isOrder : session.orderRequest? request.name placement = some order.question
  /-- It acts. -/
  acts : order.question.method = .post
  /-- It has the name that is wanted, and the identifiers that the lookups have selected. -/
  body : order.question.body = some
    (Session.cloneBody placement.source request.name placement.folder placement.pool)
  /-- All requests before it read. -/
  reads : ∀ lookup ∈ lookups, lookup.question.method = .get

/-- Whatever comes of a clone, something is changed just if the lookups select a placement, and then
the clone is asked for there, by the last request. -/
theorem Session.Fulfils.changes {value : Option (Except InventoryError ObjectRef)}
    (fulfils : session.Fulfils request exchanges value) :
    ((∃ error, session.Locates request exchanges (.error error)) ∧
        ∀ exchange ∈ exchanges, exchange.question.method = .get) ∨
      ∃ lookups placement order, session.Places request lookups placement ∧
        exchanges = lookups ++ [order] ∧ session.Ordered request placement lookups order := by
  cases fulfils with
  | unplaced locates => exact .inl ⟨⟨_, locates⟩, locates.reads⟩
  | @ordered lookups placement order reaction _ places isOrder told =>
    obtain ⟨url, -, isRequest⟩ := Session.request?_eq_some isOrder
    refine .inr ⟨lookups, placement, ⟨order, reaction⟩, places, rfl, isOrder, ?_, ?_,
      (locates_ok.2 places).reads⟩ <;> rw [isRequest]

end NodeScaler.Vcenter
