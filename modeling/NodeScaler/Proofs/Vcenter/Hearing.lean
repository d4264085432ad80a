import NodeScaler.Proofs.Plan.Hearing
import NodeScaler.Proofs.Vcenter.Asking
import NodeScaler.Proofs.Vcenter.Requests

/-!
# What a session hears

A clone and an attachment of a tag each end well just if their one changing request is sent and is
answered in time with a success. What comes before it only reads. The time that a success takes is
that of the responses.
-/

namespace NodeScaler.Vcenter

open Plan (Hears Asks)

variable {α β : Type} {session : Session} {request : HttpRequest} {limit time : Duration}
  {exchanges : List (Exchange Http)} {method : HttpMethod} {path : String}
  {fields : List (String × String)} {body : Option Json.Value}

/-! ## Responses in time -/

/-- The reaction is a response within a span of time. -/
def InTime (limit : Duration) (reaction : Reaction) (response : HttpResponse) : Prop :=
  ∃ after, reaction = .response after response ∧
    after.waited.nanoseconds ≤ limit.alarm.nanoseconds

/-- A response is in time if it does not take longer than the span. -/
theorem inTime_response {after : Duration} {response other : HttpResponse} :
    InTime limit (.response after response) other ↔
      response = other ∧ after.waited.nanoseconds ≤ limit.alarm.nanoseconds := by
  constructor
  · rintro ⟨span, same, inTime⟩
    cases same
    exact ⟨rfl, inTime⟩
  · rintro ⟨rfl, inTime⟩
    exact ⟨after, rfl, inTime⟩

/-- A value after a pause is there in time, or it is not. -/
theorem hears_settled {after : Duration} {found : α} {value : Option (Option α)}
    (hears : ((Plan.pause after >>= fun _ => .done found : Plan Http α).within limit.alarm).Hears
      exchanges time value) :
    exchanges = [] ∧ (value = none ∨ value =
      some (if after.waited.nanoseconds ≤ limit.alarm.nanoseconds then some found else none)) := by
  unfold Plan.pause at hears
  split at hears
  · next atOnce =>
    obtain ⟨rfl, -, isValue⟩ := Hears.of_done hears
    rw [if_pos (by simp [Duration.waited, atOnce])]
    exact ⟨rfl, isValue⟩
  · change ((Plan.wait after.waited (.done found)).within limit.alarm).Hears _ _ _ at hears
    rw [Plan.within] at hears
    split at hears
    · next inTime =>
      rw [if_pos inTime]
      cases hears with
      | stop => exact ⟨rfl, .inl rfl⟩
      | wait later =>
        obtain ⟨rfl, -, isValue⟩ := Hears.of_done later
        exact ⟨rfl, isValue⟩
    · next late =>
      rw [if_neg late]
      exact hears.of_cut

/-- What is heard of a request with a deadline: nothing, or what comes of it, and there is a response
just if it is in time. -/
theorem hears_exchangeWithin {result : Option (Except SendFailure HttpResponse)}
    (hears : (Http.exchangeWithin limit request).run.Hears exchanges time result) :
    (exchanges = [] ∧ ∀ response, result ≠ some (.ok response)) ∨
      ∃ reaction : Reaction, exchanges = [⟨request, reaction⟩] ∧
        (result = none ∨ ∀ response, result = some (.ok response) ↔ InTime limit reaction response) := by
  obtain ⟨found, within, rfl⟩ := hears.of_map
  cases requestable : request.url.isRequestable with
  | false =>
    rw [Http.exchange_unrequestable request requestable] at within
    obtain ⟨rfl, -, rfl | rfl⟩ := Hears.of_done within
    · exact .inl ⟨rfl, fun response same => by cases same⟩
    · exact .inl ⟨rfl, fun response same => by cases same⟩
  | true =>
    rw [Http.exchange_run request requestable] at within
    cases within with
    | stop => exact .inl ⟨rfl, fun response same => by cases same⟩
    | @ask _ _ reaction _ _ _ later =>
      right
      refine ⟨reaction, ?_⟩
      cases reaction with
      | response after response =>
        have settled : ((Plan.pause after >>= fun _ => .done (.ok response) :
            Plan Http (Except SendFailure HttpResponse)).within limit.alarm).Hears _ _ _ := later
        obtain ⟨rfl, rfl | rfl⟩ := hears_settled settled
        · exact ⟨rfl, .inl rfl⟩
        · refine ⟨rfl, .inr fun other => ?_⟩
          rw [inTime_response]
          split
          · next inTime => simp [inTime]
          · next late => simp [late]
      | broken after =>
        have settled : ((Plan.pause after >>= fun _ => .done (.error (.unanswered request.url)) :
            Plan Http (Except SendFailure HttpResponse)).within limit.alarm).Hears _ _ _ := later
        obtain ⟨rfl, rfl | rfl⟩ := hears_settled settled
        · exact ⟨rfl, .inl rfl⟩
        · refine ⟨rfl, .inr fun other => ?_⟩
          split <;> simp [InTime]
      | lost after failure =>
        have settled : ((Plan.pause after >>= fun _ => .done (.error (.misled failure)) :
            Plan Http (Except SendFailure HttpResponse)).within limit.alarm).Hears _ _ _ := later
        obtain ⟨rfl, rfl | rfl⟩ := hears_settled settled
        · exact ⟨rfl, .inl rfl⟩
        · refine ⟨rfl, .inr fun other => ?_⟩
          split <;> simp [InTime]
      | silence =>
        obtain ⟨rfl, rfl | rfl⟩ := Hears.of_cut later
        · exact ⟨rfl, .inl rfl⟩
        · exact ⟨rfl, .inr fun other => by simp [InTime]⟩

/-- The same of a request that may not be writable, whose failures are seen as others. -/
theorem hears_attemptWithin {request? : Option HttpRequest} {change : SendFailure → InventoryError}
    {result : Option (Except InventoryError HttpResponse)}
    (hears : ((attempt (Http.exchangeWithin limit) request?).mapError change).run.Hears exchanges time
      result) :
    (exchanges = [] ∧ ∀ response, result ≠ some (.ok response)) ∨
      ∃ (request : HttpRequest) (reaction : Reaction), request? = some request ∧
        exchanges = [⟨request, reaction⟩] ∧
        (result = none ∨ ∀ response, result = some (.ok response) ↔ InTime limit reaction response) := by
  obtain ⟨found, alone, rfl⟩ := hears.of_map
  have sameOk (response : HttpResponse) :
      found.map (Except.mapError change) = some (.ok response) ↔ found = some (.ok response) := by
    cases found with
    | none => exact iff_of_false nofun nofun
    | some found =>
      rw [Option.map_some, Option.some.injEq, Option.some.injEq]
      exact Plan.mapError_eq_ok
  cases request? with
  | none =>
    obtain ⟨rfl, isNone⟩ := Hears.of_failed alone
    exact .inl ⟨rfl, fun response same => isNone response ((sameOk response).1 same)⟩
  | some request =>
    rcases hears_exchangeWithin alone with ⟨rfl, isNone⟩ | ⟨reaction, rfl, rfl | isResponse⟩
    · exact .inl ⟨rfl, fun response same => isNone response ((sameOk response).1 same)⟩
    · exact .inr ⟨request, reaction, rfl, rfl, .inl rfl⟩
    · exact .inr ⟨request, reaction, rfl, rfl, .inr fun response =>
        (sameOk response).trans (isResponse response)⟩

/-- A login sends its one request, or none. -/
theorem hears_login {address user password : String} {insecure : Bool}
    {result : Option (Except InventoryError Session)}
    (hears : (login address user password insecure limit).run.Hears exchanges time result) :
    (exchanges = [] ∧ ∀ session, result ≠ some (.ok session)) ∨
      ∃ (request : HttpRequest) (reaction : Reaction),
        loginRequest? (withoutSlashes address) user password insecure = some request ∧
          exchanges = [⟨request, reaction⟩] := by
  unfold login at hears
  rcases hears.of_attempt with ⟨rfl, dropped⟩ | ⟨error, rfl, failed⟩ |
    ⟨response, before, between, after, late, answered, rest, rfl, -⟩
  · rcases hears_attemptWithin dropped with ⟨rfl, -⟩ | ⟨request, reaction, isRequest, rfl, -⟩
    · exact .inl ⟨rfl, fun session same => by cases same⟩
    · exact .inr ⟨request, reaction, isRequest, rfl⟩
  · rcases hears_attemptWithin failed with ⟨rfl, -⟩ | ⟨request, reaction, isRequest, rfl, -⟩
    · exact .inl ⟨rfl, fun session same => by cases same⟩
    · exact .inr ⟨request, reaction, isRequest, rfl⟩
  · have nothing : after = [] := by
      refine Asks.hears_nothing (?_ : Asks _ False _) rest
      dsimp only
      split
      · exact .done _
      · exact Asks.attempt (.done _) fun _ => .done _
    subst nothing
    rcases hears_attemptWithin answered with ⟨rfl, isNone⟩ | ⟨request, reaction, isRequest, rfl, -⟩
    · exact absurd rfl (isNone response)
    · exact .inr ⟨request, reaction, isRequest, rfl⟩

/-! ## Requests of a session -/

/-- What is heard of a request of the session. -/
theorem hears_send {result : Option (Except InventoryError HttpResponse)}
    (hears : (session.send method path fields body).run.Hears exchanges time result) :
    (exchanges = [] ∧ ∀ response, result ≠ some (.ok response)) ∨
      ∃ (request : HttpRequest) (reaction : Reaction),
        session.request? method path fields body = some request ∧
        exchanges = [⟨request, reaction⟩] ∧ (result = none ∨
          ∀ response, result = some (.ok response) ↔ InTime session.timeout reaction response) :=
  hears_attemptWithin hears

/-- In the exchange the server is asked this, and tells a value in time. -/
def Session.Tells (session : Session) (read : Json.Value → Option α) (value : α)
    (request? : Option HttpRequest) (exchange : Exchange Http) : Prop :=
  request? = some exchange.question ∧
    ∃ response, InTime session.timeout exchange.answer response ∧ Conveys read value response

/-- What has been read has been told. -/
theorem hears_fetch {read : Json.Value → Option α} {value : α}
    (hears : (session.fetch read method path fields).run.Hears exchanges time (some (.ok value))) :
    ∃ exchange, exchanges = [exchange] ∧
      session.Tells read value (session.request? method path fields none) exchange := by
  unfold Session.fetch at hears
  obtain ⟨response, before, between, after, late, answered, rest, rfl, -⟩ := hears.of_attempt_ok
  obtain ⟨rfl, -, conveys⟩ := Hears.of_done_some rest
  rcases hears_send answered with ⟨-, isNone⟩ | ⟨request, reaction, isRequest, rfl, isResponse⟩
  · exact absurd rfl (isNone response)
  · have inTime := (isResponse.resolve_left (by simp) response).1 rfl
    exact ⟨_, rfl, isRequest, response, inTime, conveys.symm⟩

/-! ## Tags -/

/-- The tags of a list are read up to the first one of a name. -/
inductive Session.Searches (session : Session) (name : String) :
    List String → List (Exchange Http) → Option String → Prop where
  /-- There is none of the name. -/
  | absent : Searches session name [] [] none
  /-- The first one has the name. -/
  | present {listed id : String} {rest : List String} {exchange : Exchange Http}
      (told : session.Tells (named? "id") (id, name)
        (session.request? .get ("/api/cis/tagging/tag/" ++ listed) [] none) exchange) :
      Searches session name (listed :: rest) [exchange] (some id)
  /-- The first one has another name. -/
  | other {listed id found : String} {rest : List String} {exchange : Exchange Http}
      {exchanges : List (Exchange Http)} {result : Option String}
      (told : session.Tells (named? "id") (id, found)
        (session.request? .get ("/api/cis/tagging/tag/" ++ listed) [] none) exchange)
      (differs : found ≠ name) (others : Searches session name rest exchanges result) :
      Searches session name (listed :: rest) (exchange :: exchanges) result

/-- The server tells which tags there are, and which of them has a name. -/
def Session.Finds (session : Session) (name : String) (exchanges : List (Exchange Http))
    (id? : Option String) : Prop :=
  ∃ listed exchange later, exchanges = exchange :: later ∧
    session.Tells (listOf? Json.Value.text?) listed
      (session.request? .get "/api/cis/tagging/tag" [] none) exchange ∧
    session.Searches name listed later id?

/-- The server tells which objects carry the tag of a name: none if there is no such tag. -/
inductive Session.Carries (session : Session) (name : String) :
    List (Exchange Http) → RefSet → Prop where
  /-- There is no such tag. -/
  | absent {exchanges : List (Exchange Http)} (finds : session.Finds name exchanges none) :
      Carries session name exchanges .empty
  /-- There is such a tag, and these objects carry it. -/
  | present {exchanges : List (Exchange Http)} {id : String} {objects : List ObjectRef}
      {exchange : Exchange Http} (finds : session.Finds name exchanges (some id))
      (told : session.Tells (listOf? ObjectRef.ofJson?) objects
        (session.request? .post (Session.associationPath id) [("action", "list-attached-objects")]
          none) exchange) :
      Carries session name (exchanges ++ [exchange]) (.ofList objects)

/-- A search that comes to an end has been told all that is searched. -/
theorem hears_firstNamed {name : String} {listed : List String} {id? : Option String}
    (hears : (session.firstNamed name listed).run.Hears exchanges time (some (.ok id?))) :
    session.Searches name listed exchanges id? := by
  induction listed generalizing exchanges time with
  | nil =>
    obtain ⟨rfl, -, ⟨⟩⟩ := Hears.of_done_some hears
    exact .absent
  | cons first rest inductionHypothesis =>
    unfold Session.firstNamed at hears
    obtain ⟨⟨id, found⟩, before, between, after, late, answered, later, rfl, -⟩ := hears.of_attempt_ok
    obtain ⟨exchange, rfl, told⟩ := hears_fetch answered
    dsimp only at later
    split at later
    · next isName =>
      subst isName
      obtain ⟨rfl, -, ⟨⟩⟩ := Hears.of_done_some later
      exact .present told
    · next differs => exact .other told differs (inductionHypothesis later)

/-- A tag that has been looked up has been told, or that there is none. -/
theorem hears_tagId? {name : String} {id? : Option String}
    (hears : (session.tagId? name).run.Hears exchanges time (some (.ok id?))) :
    session.Finds name exchanges id? := by
  unfold Session.tagId? at hears
  obtain ⟨listed, before, between, after, late, answered, later, rfl, -⟩ := hears.of_attempt_ok
  obtain ⟨exchange, rfl, told⟩ := hears_fetch answered
  exact ⟨listed, exchange, after, rfl, told, hears_firstNamed later⟩

/-- Objects that have been looked up have been told. -/
theorem hears_carriers {name : String} {objects : RefSet}
    (hears : (session.carriers name).run.Hears exchanges time (some (.ok objects))) :
    session.Carries name exchanges objects := by
  unfold Session.carriers at hears
  obtain ⟨id?, before, between, after, late, found, later, rfl, -⟩ := hears.of_attempt_ok
  have finds := hears_tagId? found
  cases id? with
  | none =>
    obtain ⟨rfl, -, ⟨⟩⟩ := Hears.of_done_some later
    rw [List.append_nil]
    exact .absent finds
  | some id =>
    obtain ⟨members, before, between, after, late, answered, rest, rfl, -⟩ := later.of_attempt_ok
    obtain ⟨exchange, rfl, told⟩ := hears_fetch answered
    obtain ⟨rfl, -, ⟨⟩⟩ := Hears.of_done_some rest
    exact .present finds told

end NodeScaler.Vcenter
