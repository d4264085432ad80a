import NodeScaler.Proofs.Http.Segment
import NodeScaler.Proofs.Vcenter.Asking

/-!
# Identifiers in requests

A machine, a tag and the objects of a tag are asked for by an identifier that the platform has told. It is
put into the path of the request as it is. For identifiers that may stand there as a segment the last
segment stands for the identifier, nothing is added to the query, and different ones have different
requests. No other identifier is named by its request, and some of them share the request of another
one.
-/

namespace NodeScaler

open Plan (Asks AsksJust)

namespace Vcenter

variable {α : Type} {session : Session} {request twin : HttpRequest} {method : HttpMethod}
  {path directory id other : String} {fields : List (String × String)} {body : Option Json.Value}

/-! ## What is asked -/

/-- The request, if it can be written and made. -/
def Session.sendable? (session : Session) (method : HttpMethod) (path : String)
    (fields : List (String × String)) (body : Option Json.Value) : Option HttpRequest :=
  (session.request? method path fields body).filter (·.url.isRequestable)

/-- Sending a request asks just this request. -/
theorem send_asksJust (session : Session) (method : HttpMethod) (path : String)
    (fields : List (String × String)) (body : Option Json.Value) :
    AsksJust (I := Http) (session.sendable? method path fields body)
      (session.send method path fields body).run := by
  unfold Session.send Session.sendable?
  cases session.request? method path fields body with
  | none => exact .none (.done _)
  | some request =>
    cases requestable : request.url.isRequestable with
    | false =>
      rw [Option.filter_some_neg (by simp [requestable])]
      change AsksJust none (Except.mapError _ <$> (Http.exchangeWithin session.timeout request).run)
      rw [Http.exchangeWithin_unrequestable session.timeout request requestable]
      exact .none (.done _)
    | true =>
      rw [Option.filter_some_pos (by simp [requestable])]
      change AsksJust (some request)
        (Except.mapError _ <$> (Http.exchangeWithin session.timeout request).run)
      rw [Http.exchangeWithin_run session.timeout request requestable]
      exact .some fun reaction =>
        ((Http.settle_asks request.url reaction).attemptWithin session.timeout _).mapError _

/-- Reading what a response says asks just the request. -/
theorem fetch_asksJust (session : Session) (read : Json.Value → Option α) (method : HttpMethod)
    (path : String) (fields : List (String × String)) :
    AsksJust (I := Http) (session.sendable? method path fields none)
      (session.fetch read method path fields).run :=
  (send_asksJust session method path fields none).attempt fun _ => .done _

/-- The name of a machine is read with one request. -/
theorem machineName_asksJust (session : Session) (object : ObjectRef) :
    AsksJust (I := Http) (session.sendable? .get ("/api/vcenter/vm/" ++ object.id) [] none)
      (session.machineName object).run :=
  (fetch_asksJust session _ .get _ []).attempt fun _ => .done _

/-- So is its BIOS UUID. -/
theorem machineUuid_asksJust (session : Session) (object : ObjectRef) :
    AsksJust (I := Http) (session.sendable? .get ("/api/vcenter/vm/" ++ object.id) [] none)
      (session.machineUuid object).run := by
  refine (fetch_asksJust session _ .get _ []).attempt fun info => ?_
  cases info.uuid with
  | none => exact .done _
  | some uuid => exact .done _

/-- The request attaches a tag to an object. -/
def Session.OrdersAttachment (session : Session) (object : ObjectRef) (request : HttpRequest) : Prop :=
  ∃ id, session.request? .post (Session.associationPath id) [("action", "attach")]
    (some (Session.attachment object)) = some request

/-- To attach a tag is to read tags, and then to ask for the attachment. -/
theorem attach_orders (session : Session) (name : String) (object : ObjectRef) :
    (session.attach name object).run.Asks (I := Http)
      (fun request => session.ReadsTag request ∨ session.OrdersAttachment object request) False := by
  refine ((tagId?_asks session name).widen (fun _ => Or.inl) id).attempt fun found => ?_
  cases found with
  | none => exact .done _
  | some id =>
    exact (send_asks fun _ asked => .inr ⟨id, asked⟩).attempt fun _ =>
      Asks.attempt (.done _) fun _ => .done _

/-! ## What a request names -/

/-- The paths in front of the identifiers of machines and tags. -/
def directories : List String :=
  ["/api/vcenter/vm/", "/api/cis/tagging/tag/", "/api/cis/tagging/tag-association/"]

/-- The last segment of the path stands for a text. -/
def Names (request : HttpRequest) (text : String) : Prop :=
  ∃ last, request.url.path.getLast? = some last ∧ Percent.decodedText? last.toList = some text

/-- Requests for a path that consists of a directory and an identifier name the identifier just if it is
a segment on its own, and for two such identifiers they differ in the path. -/
structure Session.TellsApart (session : Session) (directory : String) : Prop where
  /-- A request names its identifier just if the identifier may stand in a path. -/
  names {method : HttpMethod} {id : String} {fields : List (String × String)}
    {body : Option Json.Value} {request : HttpRequest} : id ≠ "" →
    session.request? method (directory ++ id) fields body = some request →
    (Names request id ↔ Url.IsSegment id)
  /-- Such an identifier adds nothing to the query. -/
  query {method : HttpMethod} {id : String} {fields : List (String × String)}
    {body : Option Json.Value} {request : HttpRequest} : Url.IsSegment id →
    session.request? method (directory ++ id) fields body = some request →
    request.url.query =
      if fields.isEmpty then none else some (String.ofList (Percent.fields fields))
  /-- Two such identifiers have different paths and targets. -/
  apart {method : HttpMethod} {id other : String} {fields : List (String × String)}
    {body : Option Json.Value} {request twin : HttpRequest} : Url.IsSegment id →
    Url.IsSegment other → id ≠ other →
    session.request? method (directory ++ id) fields body = some request →
    session.request? method (directory ++ other) fields body = some twin →
    request.url.pathText ≠ twin.url.pathText ∧ request.url.target ≠ twin.url.target

/-- The address of a session leads to its directories. -/
theorem leads_directory {base : List Char} (inPath : ∀ c ∈ base, Url.isInPath c = true)
    (isDirectory : directory ∈ directories) :
    ∃ front, Url.Leads (base ++ front) ∧ directory.toList = front ++ ['/'] := by
  have leads (before : List Char) (last : Char) (isAlpha : last.isAlpha = true)
      (allInPath : (before ++ [last]).all Url.isInPath = true) :
      Url.Leads (base ++ (before ++ [last])) :=
    ⟨List.forall_mem_append.2 ⟨inPath, List.all_eq_true.1 allInPath⟩, base ++ before, last,
      (List.append_assoc _ _ _).symm, isAlpha⟩
  simp only [directories, List.mem_cons, List.not_mem_nil, or_false] at isDirectory
  rcases isDirectory with rfl | rfl | rfl
  · exact ⟨"/api/vcenter/v".toList ++ ['m'], leads _ _ (by decide) (by decide), by decide⟩
  · exact ⟨"/api/cis/tagging/ta".toList ++ ['g'], leads _ _ (by decide) (by decide), by decide⟩
  · exact ⟨"/api/cis/tagging/tag-associatio".toList ++ ['n'], leads _ _ (by decide)
      (by decide), by decide⟩

/-- The last segment of a request below a directory, and its query. -/
theorem request?_url (inPath : ∀ c ∈ session.base.toList, Url.isInPath c = true)
    (isDirectory : directory ∈ directories)
    (asked : session.request? method (directory ++ id) fields body = some request) :
    request.url.path.getLast? = some (String.ofList (Url.written (Url.lastOf id.toList))) ∧
      (Url.IsSegment id → request.url.query =
        if fields.isEmpty then none else some (String.ofList (Percent.fields fields))) := by
  obtain ⟨url, reads, rfl⟩ := Session.request?_eq_some asked
  obtain ⟨front, leads, isFront⟩ := leads_directory inPath isDirectory
  have isText : (session.base ++ (directory ++ id)).toList =
      (session.base.toList ++ front) ++ '/' :: id.toList := by
    simp only [String.toList_append, isFront, List.append_assoc, List.cons_append, List.nil_append]
  obtain ⟨isLast, noQuery⟩ := leads.parse? isText reads
  have samePath : (url.withFields fields).path = url.path := by
    unfold Url.withFields
    split <;> rfl
  refine ⟨samePath ▸ isLast, fun isSegment => ?_⟩
  have isNone : url.query = none := noQuery fun c isIn =>
    (isSegment.inside c (isSegment.lastOf.1 ▸ isIn)).2.1
  change (url.withFields fields).query = _
  unfold Url.withFields
  split
  · exact isNone
  · rw [isNone]

/-- Below the address of a server identifiers are told apart. -/
theorem tellsApart (inPath : ∀ c ∈ session.base.toList, Url.isInPath c = true)
    (isDirectory : directory ∈ directories) : session.TellsApart directory := by
  constructor
  · intro method id fields body request nonempty asked
    have isLast := (request?_url inPath isDirectory asked).1
    rw [← Url.decodedText?_written nonempty]
    constructor
    · rintro ⟨last, isLastToo, isText⟩
      rw [isLast] at isLastToo
      rwa [← Option.some.inj isLastToo, String.toList_ofList] at isText
    · intro isText
      exact ⟨_, isLast, by rwa [String.toList_ofList]⟩
  · intro method id fields body request isSegment asked
    exact (request?_url inPath isDirectory asked).2 isSegment
  · intro method id other fields body request twin isSegment isSegmentToo differ asked askedToo
    obtain ⟨isLast, isQuery⟩ := request?_url inPath isDirectory asked
    obtain ⟨isLastToo, isQueryToo⟩ := request?_url inPath isDirectory askedToo
    have paths := Url.pathText_ne isSegment isSegmentToo differ isLast isLastToo
    refine ⟨paths, fun same => paths ?_⟩
    rw [Url.target, Url.target, isQuery isSegment, isQueryToo isSegmentToo] at same
    have characters := congrArg String.toList same
    rw [String.toList_append, String.toList_append] at characters
    exact String.toList_injective (List.append_cancel_right characters)

/-- **Identifiers in paths.** The name and the BIOS UUID of a machine, and a tag, are each read with the
one request for the path that ends in the identifier, or with none if it cannot be made. The objects
of a tag and its attachment are asked for by paths that end in the identifier, too.

Identifiers are put into the path unescaped, and the parser of addresses cuts them at `?` and `#` and
resolves dots. So the last segment, with percent signs decoded, is the identifier just if this is a
segment on its own (`Url.IsSegment`). Such an identifier leaves the query as it is, and two of them have
different paths. The base of the session must hold no `?` or `#`, behind which there is no path. -/
theorem requests_name (session : Session)
    (inPath : ∀ c ∈ session.base.toList, Url.isInPath c = true) :
    (∀ (object : ObjectRef) (σ : Type) (server : Handler Http σ) (state : σ),
      let asked := (session.sendable? .get ("/api/vcenter/vm/" ++ object.id) [] none).toList
      (session.machineName object).run.questions server state = asked ∧
        (session.machineUuid object).run.questions server state = asked) ∧
    (∀ (id : String) (σ : Type) (server : Handler Http σ) (state : σ),
      (session.tag id).run.questions server state =
        (session.sendable? .get ("/api/cis/tagging/tag/" ++ id) [] none).toList) ∧
    (∀ name, (session.carriers name).run.Asks (I := Http) session.LooksUp False) ∧
    (∀ name object, (session.attach name object).run.Asks (I := Http)
      (fun request => session.ReadsTag request ∨ session.OrdersAttachment object request) False) ∧
    ∀ directory ∈ directories, session.TellsApart directory := by
  refine ⟨fun object σ server state => ⟨?_, ?_⟩, fun id σ server state => ?_, fun name => ?_,
    fun name object => ?_, fun directory isDirectory => tellsApart inPath isDirectory⟩
  · exact (machineName_asksJust session object).questions_eq server state
  · exact (machineUuid_asksJust session object).questions_eq server state
  · exact (fetch_asksJust session _ .get _ []).questions_eq server state
  · exact carriers_asks session name
  · exact attach_orders session name object

/-- A session with a server at home. -/
def home : Session := ⟨"https://[::1]", "token", false, .seconds 30⟩

/-- A request that can be sent is a request of the session. -/
theorem Session.request?_of_sendable? (sendable : session.sendable? method path fields body = some request) :
    session.request? method path fields body = some request :=
  (Option.filter_eq_some_iff.1 sendable).1

/-- Two machines of a server at home are named and told apart, though a blank, a letter and a percent sign
in an identifier are written otherwise. -/
theorem home_names : ∃ request twin,
    (home.machineName (.vm "vm-1")).run.questions Http.mute () = [request] ∧
      (home.machineName (.vm "vm ä%")).run.questions Http.mute () = [twin] ∧
      Names request "vm-1" ∧ Names twin "vm ä%" ∧ request.url.target ≠ twin.url.target := by
  have inPath : ∀ c ∈ home.base.toList, Url.isInPath c = true := List.all_eq_true.1 (by decide)
  obtain ⟨machines, -, -, -, apart⟩ := requests_name home inPath
  have tells : home.TellsApart "/api/vcenter/vm/" := apart _ List.mem_cons_self
  have isSegment : Url.IsSegment "vm-1" := by decide
  have isSegmentToo : Url.IsSegment "vm ä%" := by decide
  obtain ⟨request, isRequest⟩ : ∃ request,
      home.sendable? .get ("/api/vcenter/vm/" ++ "vm-1") [] none = some request :=
    Option.isSome_iff_exists.1 (by decide +kernel)
  obtain ⟨twin, isTwin⟩ : ∃ twin,
      home.sendable? .get ("/api/vcenter/vm/" ++ "vm ä%") [] none = some twin :=
    Option.isSome_iff_exists.1 (by decide +kernel)
  have asked := Session.request?_of_sendable? isRequest
  have askedToo := Session.request?_of_sendable? isTwin
  refine ⟨request, twin, ?_, ?_, ?_, ?_, ?_⟩
  · exact (machines (.vm "vm-1") Unit Http.mute ()).1.trans (congrArg Option.toList isRequest)
  · exact (machines (.vm "vm ä%") Unit Http.mute ()).1.trans (congrArg Option.toList isTwin)
  · exact (tells.names (by decide) asked).2 isSegment
  · exact (tells.names (by decide) askedToo).2 isSegmentToo
  · exact (tells.apart isSegment isSegmentToo (by decide) asked askedToo).2

/-- Every two machines with different identifiers are read with different targets, and each request names
its machine and has no query. -/
def Session.ReadsApart (session : Session) : Prop :=
  ∀ object other : ObjectRef, object.id ≠ "" → other.id ≠ "" → object.id ≠ other.id →
    ∀ request ∈ (session.machineName object).run.questions Http.mute (),
    ∀ twin ∈ (session.machineName other).run.questions Http.mute (),
      request.url.target ≠ twin.url.target ∧ Names request object.id ∧ request.url.query = none

/-- What stands behind a number sign in an identifier is not sent, so that such a machine is read with
the request of another one. -/
theorem old_machine_misread : ¬home.ReadsApart := by
  intro apart
  have targets : ((home.machineName (.vm "vm-1")).run.questions Http.mute ()).map (·.url.target) =
        ["/api/vcenter/vm/vm-1"] ∧
      ((home.machineName (.vm "vm-1#old")).run.questions Http.mute ()).map (·.url.target) =
        ["/api/vcenter/vm/vm-1"] := by
    decide +kernel
  obtain ⟨request, isRequest, target⟩ := List.mem_map.1 (targets.1 ▸ List.mem_singleton_self _)
  obtain ⟨twin, isTwin, targetToo⟩ := List.mem_map.1 (targets.2 ▸ List.mem_singleton_self _)
  exact (apart _ _ (by decide) (by decide) (by decide) request isRequest twin isTwin).1
    (target.trans targetToo.symm)

end Vcenter

end NodeScaler
