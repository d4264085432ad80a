import NodeScaler.Proofs.Plan.Giving
import NodeScaler.Proofs.Vcenter.Homonyms
import NodeScaler.Proofs.Vcenter.Identifiers

/-!
# Servers that echo references

A request that attaches a tag to an object encloses a reference to it. A server need not understand it: if
it keeps what the requests for a tag enclose and says this when it is asked for the objects of the tag,
perhaps spelled otherwise and with the fields in another order, then these objects are found.
-/

namespace NodeScaler

open Json (Value Stands)

namespace Vcenter

variable {σ : Type} {server : Handler Http σ} {good : σ → Prop} {session : Session} {state : σ}
  {name id : String} {object : ObjectRef} {objects members : List ObjectRef} {values : List Value}
  {request : HttpRequest} {echo : Value} {kept : σ → List Value}

/-! ## What is sent -/

/-- The text of the body is that of an object with this value in its field `object_id`. -/
def Encloses (request : HttpRequest) (echo : Value) : Prop :=
  ∃ body sent, request.body = some body ∧ Stands sent body.text.toList ∧
    sent.fields? ["object_id"] = some [some echo]

/-- The body that attaches a tag to an object encloses the form in which the object is sent. -/
theorem encloses_iff (isBody : request.body = some (Session.attachment object)) :
    Encloses request echo ↔ echo = object.json := by
  have stands : Stands (Session.attachment object) (Session.attachment object).text.toList :=
    Value.Proper.stands_text (.ofFields (List.forall_mem_singleton.2 object.proper_json))
  have held : (Session.attachment object).fields? ["object_id"] = some [some object.json] := rfl
  constructor
  · rintro ⟨body, sent, isBodyToo, standsToo, isHeld⟩
    cases isBody.symm.trans isBodyToo
    cases stands.unique standsToo
    rw [held] at isHeld
    cases isHeld
    rfl
  · rintro rfl
    exact ⟨_, _, isBody, stands, held⟩

/-- The request encloses a value, and whatever it encloses is read as the object. -/
def RefersTo (object : ObjectRef) (request : HttpRequest) : Prop :=
  (∃ echo, Encloses request echo) ∧
    ∀ echo, Encloses request echo → ObjectRef.ofJson? echo = some object

/-- A request to attach a tag to an object encloses a reference to it. -/
theorem Session.OrdersAttachment.refersTo (orders : session.OrdersAttachment object request) :
    RefersTo object request := by
  obtain ⟨id, asked⟩ := orders
  obtain ⟨url, reads, rfl⟩ := Session.request?_eq_some asked
  refine ⟨⟨object.json, (encloses_iff rfl).2 rfl⟩, fun echo encloses => ?_⟩
  rw [(encloses_iff rfl).1 encloses]
  exact object.ofJson?_json

/-! ## The server -/

/-- A server that has a tag of a name keeps what the requests to attach this tag enclose, and says it when
it is asked for the objects of the tag. -/
structure Session.EchoedBy (session : Session) (server : Handler Http σ) (good : σ → Prop)
    (kept : σ → List Value) (name id : String) : Prop where
  /-- The tag is found, and nothing is lost over it. -/
  finds (values : List Value) : (session.tagId? name).run.Settles server
    (fun state => good state ∧ kept state = values) (· = .ok (some id))
  /-- Asked to attach the tag, the server keeps in addition what the request encloses, perhaps with the
  fields in another order. -/
  keeps (object : ObjectRef) : ∃ request, session.request? .post (Session.associationPath id)
      [("action", "attach")] (some (Session.attachment object)) = some request ∧
    request.url.isRequestable = true ∧ ∀ state echo, good state → Encloses request echo →
      Answers server session.timeout request state IsSuccess fun later => good later ∧ ∃ other,
        echo.Rearranged other ∧ ∀ value, value ∈ kept later ↔ value = other ∨ value ∈ kept state
  /-- Asked for the objects of the tag, it says what it has kept, spelled in whatever way. -/
  lists : ∃ request, session.request? .post (Session.associationPath id)
      [("action", "list-attached-objects")] none = some request ∧
    request.url.isRequestable = true ∧ ∀ state, good state →
      Answers server session.timeout request state (fun response => IsSuccess response ∧
        Stands (.array (kept state)) response.body.toList) fun _ => True

/-- The values are references to the objects, one or more to each. -/
structure AreReferences (values : List Value) (objects : List ObjectRef) : Prop where
  /-- Each value is a reference to one of the objects. -/
  sound : ∀ value ∈ values, ∃ object ∈ objects, object.Describes value
  /-- There is a reference to each object. -/
  complete : ∀ object ∈ objects, ∃ value ∈ values, object.Describes value

/-- One more reference is one to one more object. -/
theorem AreReferences.insert {later : List Value} {other : Value}
    (references : AreReferences values objects) (describes : object.Describes other)
    (isLater : ∀ value, value ∈ later ↔ value = other ∨ value ∈ values) :
    AreReferences later (object :: objects) where
  sound value isIn := by
    rcases (isLater value).1 isIn with rfl | isOld
    · exact ⟨object, List.mem_cons_self, describes⟩
    · obtain ⟨found, isFound, describesToo⟩ := references.sound value isOld
      exact ⟨found, List.mem_cons_of_mem _ isFound, describesToo⟩
  complete found isFound := by
    rcases List.mem_cons.1 isFound with rfl | isOld
    · exact ⟨other, (isLater other).2 (.inl rfl), describes⟩
    · obtain ⟨value, isIn, describesToo⟩ := references.complete found isOld
      exact ⟨value, (isLater value).2 (.inr isIn), describesToo⟩

/-- References are read one by one. -/
theorem mapM_ofJson? (sound : ∀ value ∈ values, ∃ object : ObjectRef, object.Describes value) :
    ∃ found, values.mapM ObjectRef.ofJson? = some found ∧
      ∀ object, object ∈ found ↔ ∃ value ∈ values, object.Describes value := by
  induction values with
  | nil => exact ⟨[], rfl, by simp⟩
  | cons first rest inductionHypothesis =>
    obtain ⟨object, describes⟩ := sound first List.mem_cons_self
    obtain ⟨found, isFound, areFound⟩ :=
      inductionHypothesis fun value isIn => sound value (List.mem_cons_of_mem _ isIn)
    refine ⟨object :: found, ?_, fun other => ?_⟩
    · rw [List.mapM_cons, ObjectRef.ofJson?_eq_some_iff.2 describes, isFound]
      rfl
    · rw [List.mem_cons, areFound, List.exists_mem_cons_iff]
      refine or_congr_left ⟨?_, fun describesToo => describesToo.unique describes⟩
      rintro rfl
      exact describes

/-- References to objects are read as these objects. -/
theorem AreReferences.mapM (references : AreReferences values objects) :
    ∃ found, values.mapM ObjectRef.ofJson? = some found ∧
      RefSet.ofList found = .ofList objects := by
  obtain ⟨found, isFound, areFound⟩ := mapM_ofJson? fun value isIn =>
    (references.sound value isIn).imp fun _ => And.right
  refine ⟨found, isFound, RefSet.eq_of_mem fun object => ?_⟩
  rw [RefSet.mem_ofList, RefSet.mem_ofList, areFound]
  constructor
  · rintro ⟨value, isIn, describes⟩
    obtain ⟨other, isOther, describesToo⟩ := references.sound value isIn
    rwa [describes.unique describesToo]
  · exact references.complete object

/-- A tag is attached to an object, and one more reference is kept. -/
theorem Session.EchoedBy.attach (echoed : session.EchoedBy server good kept name id)
    (isGood : good state) (references : AreReferences (kept state) members) (object : ObjectRef) :
    ∃ last, (session.attach name object).run.Gives server state (.ok ()) last ∧ good last ∧
      AreReferences (kept last) (object :: members) := by
  obtain ⟨_, middle, found, rfl, isGoodToo, sameKept⟩ :=
    (echoed.finds (kept state)).exists_gives ⟨isGood, rfl⟩
  obtain ⟨request, asked, requestable, keeps⟩ := echoed.keeps object
  have orders : session.OrdersAttachment object request := ⟨id, asked⟩
  obtain ⟨⟨echo, encloses⟩, isRead⟩ := orders.refersTo
  have answers := keeps middle echo isGoodToo encloses
  obtain ⟨_, last, sent, response, rfl, success, isGoodLast, other, rearranged, isKept⟩ :=
    ((sends_send asked requestable).yields (Nat.le_refl _) answers).exists_gives
  have acknowledged : (ExceptT.mk (pure (checked response)) >>= fun _ => pure () :
      Attempt Http InventoryError Unit).run = .done (.ok ()) := by
    rw [checked_of_isSuccess success]
    rfl
  refine ⟨last, found.attempt (sent.attempt ?_), isGoodLast, ?_⟩
  · rw [acknowledged]
    exact Plan.gives_done _ _
  · rw [sameKept] at isKept
    have describes := ObjectRef.ofJson?_eq_some_iff.1 (isRead echo encloses)
    exact references.insert (describes.rearranged rearranged) isKept

/-- A tag is attached to objects one after the other. -/
theorem Session.EchoedBy.attachAll (echoed : session.EchoedBy server good kept name id)
    (isGood : good state) (references : AreReferences (kept state) members)
    (objects : List ObjectRef) :
    ∃ last, (objects.forM (session.attach name)).run.Gives server state (.ok ()) last ∧ good last ∧
      AreReferences (kept last) (objects.reverse ++ members) := by
  induction objects generalizing state members with
  | nil => exact ⟨state, Plan.gives_done _ _, isGood, references⟩
  | cons first rest inductionHypothesis =>
    obtain ⟨middle, attached, isGoodToo, referencesToo⟩ := echoed.attach isGood references first
    obtain ⟨last, others, isGoodLast, referencesLast⟩ := inductionHypothesis isGoodToo referencesToo
    refine ⟨last, attached.attempt others, isGoodLast, ?_⟩
    rwa [List.reverse_cons, List.append_assoc]

/-- The objects of the tag are those to which there are references. -/
theorem Session.EchoedBy.carriers (echoed : session.EchoedBy server good kept name id)
    (isGood : good state) (references : AreReferences (kept state) members) :
    ∃ last, (session.carriers name).run.Gives server state (.ok (.ofList members)) last := by
  obtain ⟨_, middle, found, rfl, isGoodToo, sameKept⟩ :=
    (echoed.finds (kept state)).exists_gives ⟨isGood, rfl⟩
  obtain ⟨request, asked, requestable, lists⟩ := echoed.lists
  obtain ⟨objects, areRead, sameSet⟩ := references.mapM
  have reads (response : HttpResponse) (isReply : IsSuccess response ∧
      Stands (.array (kept middle)) response.body.toList) :
      decoded (listOf? ObjectRef.ofJson?) response = .ok objects := by
    rw [decoded_of_isSuccess _ isReply.1, Json.read?_eq_some_iff.2 isReply.2, sameKept]
    have isList : listOf? ObjectRef.ofJson? (.array (kept state)) = some objects := areRead
    rw [Option.bind_some, isList]
  have fetches : (session.fetch (listOf? ObjectRef.ofJson?) .post (Session.associationPath id)
      [("action", "list-attached-objects")]).run.Yields server
        (fun result _ => result = .ok objects ∧ True) session.timeout.nanoseconds middle :=
    fetch_yields (sends_send asked requestable) (Nat.le_refl _) (lists middle isGoodToo) reads
  obtain ⟨_, last, fetched, rfl, -⟩ := fetches.exists_gives
  refine ⟨last, found.attempt (fetched.attempt ?_)⟩
  rw [← sameSet]
  exact Plan.gives_done _ _

/-! ## A server with one tag -/

/-- The value that a body has for an object. -/
def echo? (body : Value) : Option Value :=
  match body.fields? ["object_id"] with
  | some [some echo] => some echo
  | _ => none

/-- The value with its fields in reverse. -/
def turned : Value → Value
  | .object fields => .object fields.reverse
  | value => value

/-- What the server says of its only tag, at a path. -/
def tagValue (path : List String) : Value :=
  if path = Site.tags then .array [.ofText "urn:1"] else described "id" ("urn:1", "pool")

/-- What the server responds, and what it keeps. -/
def echoed (request : HttpRequest) (kept : List Value) : HttpResponse × List Value :=
  match request.method with
  | .get => (saying (tagValue request.url.path), kept)
  | .post =>
    match request.url.query, request.body.bind echo? with
    | some "action=attach", some echo => (⟨204, ""⟩, turned echo :: kept)
    | _, _ => (saying (.array kept), kept)

/-- The server. It responds at once. -/
def echoServer : Handler Http (List Value) := fun request kept =>
  let (response, later) := echoed request kept
  (.response .zero response, later)

/-- All values that are kept can be written. -/
def AllProper (kept : List Value) : Prop := ∀ value ∈ kept, value.Proper

/-- The fields in reverse are the fields in another order. -/
theorem rearranged_turned (value : Value) : value.Rearranged (turned value) := by
  cases value with
  | object fields => exact .object fields.reverse_perm.symm
  | null | boolean | number | string | array => exact .refl _

/-- The fields can then be written, too. -/
theorem proper_turned {value : Value} (proper : value.Proper) : (turned value).Proper := by
  cases proper with
  | object proper => exact .object fun field isIn => proper field (List.mem_reverse.1 isIn)
  | null => exact .null
  | boolean value => exact .boolean value
  | number isNumber => exact .number isNumber
  | string value => exact .string value
  | array proper => exact .array proper

/-- What the server says of its tag is read, and what it has kept stays. -/
theorem echoServer_tells {α : Type} {path : String} {segments : List String} {read : Value → Option α}
    {found : α} (nonempty : segments ≠ []) (plain : ∀ segment ∈ segments, Url.IsId segment)
    (written : path.toList = Url.pathChars segments)
    (requestable : (poolHome.below segments []).isRequestable = true)
    (conveys : Conveys read found (saying (tagValue segments))) (values : List Value) :
    (poolSession.fetch read .get path []).run.Settles echoServer
      (fun kept => AllProper kept ∧ kept = values) (· = .ok found) := by
  have isRequest := poolSession_usable.request? .get nonempty plain written [] none
  refine fetch_settles (sends_send isRequest requestable) (Nat.le_refl _)
    (fun kept isGood => ?_) fun response conveys => conveys
  exact ⟨saying (tagValue segments), kept, ⟨.zero, Nat.zero_le _, rfl⟩, conveys, isGood⟩

/-- The server finds its tag. -/
theorem echoServer_finds (values : List Value) : (poolSession.tagId? "pool").run.Settles echoServer
    (fun kept => AllProper kept ∧ kept = values) (· = .ok (some "urn:1")) := by
  have lists : Conveys (listOf? Value.text?) ["urn:1"] (saying (tagValue Site.tags)) := by
    have proper (id : String) : (Value.ofText id).Proper := .string _
    have reads (id : String) : (Value.ofText id).text? = some id := rfl
    rw [tagValue, if_pos rfl]
    exact conveys_list proper reads ["urn:1"]
  have describes : Conveys (named? "id") ("urn:1", "pool")
      (saying (tagValue (Site.tags ++ ["urn:1"]))) := by
    rw [tagValue, if_neg (by decide)]
    exact conveys_saying (proper_described _ _) (named?_described (by decide) _)
  have listed := echoServer_tells (by decide) (by decide) Site.written_tags.1 (by decide) lists values
  have told := echoServer_tells (by decide) (by decide)
    (Site.written_append Site.written_tags.2.1 "urn:1") (by decide) describes values
  refine .attempt listed ?_
  rw [Session.firstNamed]
  refine .attempt told ?_
  exact .done rfl

/-- A request to attach the tag, or for its objects. -/
def echoRequest (action : String) (body : Option Value) : HttpRequest :=
  poolSession.sent poolHome .post ["api", "cis", "tagging", "tag-association", "urn:1"]
    [("action", action)] body

/-- The requests of the session about its tag can be sent. -/
theorem echoRequest_asked (action : String) (body : Option Value)
    (requestable : (echoRequest action none).url.isRequestable = true) :
    poolSession.request? .post (Session.associationPath "urn:1") [("action", action)] body =
        some (echoRequest action body) ∧ (echoRequest action body).url.isRequestable = true :=
  ⟨poolSession_usable.request? .post (by decide) (by decide)
    (Site.written_append Site.written_tags.2.2 "urn:1") _ body, requestable⟩

/-- The server echoes what it is sent. -/
theorem echoServer_echoes :
    poolSession.EchoedBy echoServer AllProper (fun kept => kept) "pool" "urn:1" where
  finds := echoServer_finds
  keeps object := by
    obtain ⟨asked, requestable⟩ :=
      echoRequest_asked "attach" (some (Session.attachment object)) (by decide)
    refine ⟨_, asked, requestable, fun kept echo isGood encloses => ?_⟩
    rw [(encloses_iff rfl).1 encloses]
    have isKept : echoServer (echoRequest "attach" (some (Session.attachment object))) kept =
        (.response .zero ⟨204, ""⟩, turned object.json :: kept) := rfl
    have success : IsSuccess ⟨204, ""⟩ := by simp [IsSuccess]
    exact ⟨⟨204, ""⟩, turned object.json :: kept, ⟨.zero, Nat.zero_le _, isKept⟩, success,
      List.forall_mem_cons.2 ⟨proper_turned object.proper_json, isGood⟩, turned object.json,
      rearranged_turned _, fun value => List.mem_cons⟩
  lists := by
    obtain ⟨asked, requestable⟩ := echoRequest_asked "list-attached-objects" none (by decide)
    refine ⟨_, asked, requestable, fun kept isGood => ?_⟩
    have isSaid : echoServer (echoRequest "list-attached-objects" none) kept =
        (.response .zero (saying (.array kept)), kept) := rfl
    have success : IsSuccess (saying (.array kept)) := by simp [IsSuccess, saying]
    exact ⟨saying (.array kept), kept, ⟨.zero, Nat.zero_le _, isSaid⟩,
      ⟨success, Value.Proper.stands_text (.array isGood)⟩, trivial⟩

/-- **References come back.** A reference is read from each text for it, and from no other text; a text in
which a field is missing or repeated, or with anything but blanks behind its end, is refused. What a
request to attach a tag encloses is read as the object that the tag is attached to. So if a server echoes
what it is sent, then the objects of the tag are those that it has been attached to, and those to which
there were references before. -/
theorem references_come_back :
    (∀ object : ObjectRef, object.Survives) ∧
    (∀ text, ObjectRef.Spoiled text → ObjectRef.ofText? text = none) ∧
    (∀ (session : Session) (name : String) (object : ObjectRef),
      (session.attach name object).run.Asks (I := Http)
        (fun request => session.ReadsTag request ∨ RefersTo object request) False) ∧
    ∀ (σ : Type) (session : Session) (server : Handler Http σ) (good : σ → Prop)
      (kept : σ → List Value) (name id : String), session.EchoedBy server good kept name id →
    ∀ (state : σ) (members objects : List ObjectRef), good state →
      AreReferences (kept state) members → ∃ found,
        ((do objects.forM (session.attach name); session.carriers name :
          Attempt Http InventoryError RefSet).run.transcript server state).value = some (.ok found) ∧
        ∀ object, object ∈ found ↔ object ∈ objects ∨ object ∈ members := by
  refine ⟨ObjectRef.survives, fun text spoiled => spoiled.refused, fun session name object => ?_, ?_⟩
  · refine (attach_orders session name object).widen (fun request asked => ?_) fun stalls => stalls
    exact asked.imp_right Session.OrdersAttachment.refersTo
  · intro σ session server good kept name id echoed state members objects isGood references
    obtain ⟨middle, attached, isGoodToo, referencesToo⟩ := echoed.attachAll isGood references objects
    obtain ⟨last, found⟩ := echoed.carriers isGoodToo referencesToo
    have whole : (objects.forM (session.attach name) >>= fun _ => session.carriers name).run.Gives server
        state (.ok (.ofList (objects.reverse ++ members))) last := attached.attempt found
    refine ⟨_, whole.transcript.1, fun object => ?_⟩
    rw [RefSet.mem_ofList, List.mem_append, List.mem_reverse]

/-- A reference with characters that have to be escaped, and with one beyond sixteen bits. -/
def awkward : ObjectRef := ⟨"Virtual\"Machine\\", "vm\n\x01😀"⟩

/-- A text for it in which an unknown field stands between the identifier and the type. -/
def awkwardText : String :=
  " \x7b \"id\" : \"vm\\n\\u0001\\ud83d\\ude00\" ,\t\"more\":\x7b\"type\":[ -1.5E+2, \"\\udead\", null]\x7d," ++
    "\"type\":\"Virtual\\\"Machine\\\\\"\x7d\n"

/-- The reference comes back from this text, but not if a bracket follows it, and a type that is repeated is
refused. A server that had a reference to a machine, as an array, and that turns the fields of what it is
sent finds this machine and the two objects that the tag is attached to. -/
theorem awkward_comes_back :
    ObjectRef.ofText? awkwardText = some awkward ∧
    ObjectRef.ofText? (awkwardText ++ "]") = none ∧
    ObjectRef.ofText? "\x7b\"type\":\"a\",\"id\":\"b\",\"type\":\"a\"\x7d" = none ∧
    ∃ found, ((do [awkward, .vm "vm-1"].forM (poolSession.attach "pool"); poolSession.carriers "pool" :
        Attempt Http InventoryError RefSet).run.transcript echoServer
          [.array [.ofText "VirtualMachine", .ofText "vm-0"]]).value = some (.ok found) ∧
      ∀ object, object ∈ found ↔ object ∈ [awkward, .vm "vm-1"] ∨ object ∈ [.vm "vm-0"] := by
  obtain ⟨-, refused, -, echoes⟩ := references_come_back
  obtain ⟨value, reads⟩ : ∃ value, Json.Value.read? awkwardText.toList = some value :=
    Option.isSome_iff_exists.1 (by decide +kernel)
  have stands := Json.read?_eq_some_iff.1 reads
  refine ⟨by decide +kernel, refused _ (.trailing stands ⟨']', by decide, rfl⟩), by decide +kernel, ?_⟩
  · have proper : AllProper [.array [.ofText "VirtualMachine", .ofText "vm-0"]] := by
      refine List.forall_mem_singleton.2 (.array ?_)
      exact List.forall_mem_cons.2 ⟨.string _, List.forall_mem_singleton.2 (.string _)⟩
    have references : AreReferences [.array [.ofText "VirtualMachine", .ofText "vm-0"]] [.vm "vm-0"] :=
      ⟨List.forall_mem_singleton.2 ⟨_, List.mem_singleton_self _, .pair⟩,
        List.forall_mem_singleton.2 ⟨_, List.mem_singleton_self _, .pair⟩⟩
    exact echoes _ poolSession echoServer AllProper (fun kept => kept) "pool" "urn:1" echoServer_echoes _
      [.vm "vm-0"] [awkward, .vm "vm-1"] proper references

end Vcenter

end NodeScaler
