import NodeScaler.Proofs.Http.Address
import NodeScaler.Proofs.Plan.Settling
import NodeScaler.Vcenter.Session

/-!
# Requests of a session

A session whose base is the address of a host, perhaps with a plain path, sends each request to that
host, below that path the segments of its own, with the token in a header. If the host responds in
time, then the session gets the response, and what it says if it is a success of the expected form.
-/

namespace NodeScaler

open Vcenter (Session)

/-- An address below another one, by the rest of its path and the fields of its query. -/
def Url.below (home : Url) (segments : List String) (fields : List (String × String)) : Url :=
  ({ home with path := home.path ++ segments }).withFields fields

namespace Vcenter

variable {σ α β : Type} {handler : Handler Http σ} {good : σ → Prop} {session : Session}
  {home : Url}

/-- The session has a token that can be sent, and the address of a host, perhaps with a path. -/
structure Session.Usable (session : Session) (home : Url) : Prop where
  /-- The address. -/
  address : ∃ base path, session.base = base ++ path ∧ Url.Bare base { home with path := [""] } ∧
    path.toList = Url.pathChars home.path
  /-- The segments of its path are plain. -/
  plain : ∀ segment ∈ home.path, Url.IsId segment
  /-- The token. -/
  writable : Http.isWritable session.token = true

/-- A request as it is sent to the host of a session. -/
def Session.sent (session : Session) (home : Url) (method : HttpMethod) (segments : List String)
    (fields : List (String × String)) (body : Option Json.Value) : HttpRequest where
  method := method
  url := home.below segments fields
  headers := addressHeaders home ++ [(tokenHeader, session.token)]
  body := body
  insecure := session.insecure

/-- The host responds to a request in time, and is then in a certain state. -/
def Responds (handler : Handler Http σ) (latency : Duration) (request : HttpRequest) (state : σ)
    (response : HttpResponse) (later : σ) : Prop :=
  ∃ after, after.nanoseconds ≤ latency.nanoseconds ∧
    handler request state = (.response after response, later)

/-- The host responds in time with what meets a condition, and is then in a state that meets
another one. -/
def Answers (handler : Handler Http σ) (latency : Duration) (request : HttpRequest) (state : σ)
    (reply : HttpResponse → Prop) (ends : σ → Prop) : Prop :=
  ∃ response later, Responds handler latency request state response later ∧ reply response ∧
    ends later

/-- The response is a success and its body stands for a value. -/
def Conveys (read : Json.Value → Option α) (value : α) (response : HttpResponse) : Prop :=
  decoded read response = .ok value

/-! ## Requests that are sent -/

/-- Below its address the session sends a request to the host. -/
theorem Session.Usable.request? (usable : session.Usable home) (method : HttpMethod) {path : String}
    {segments : List String} (nonempty : segments ≠ [])
    (plain : ∀ segment ∈ segments, Url.IsId segment)
    (written : path.toList = Url.pathChars segments) (fields : List (String × String))
    (body : Option Json.Value) :
    session.request? method path fields body =
      some (session.sent home method segments fields body) := by
  obtain ⟨base, front, isBase, bare, writtenFront⟩ := usable.address
  have writtenWhole : (front ++ path).toList = Url.pathChars (home.path ++ segments) := by
    rw [String.toList_append, writtenFront, written, Url.pathChars, Url.pathChars, Url.pathChars,
      List.flatMap_append]
  have plainWhole : ∀ segment ∈ home.path ++ segments, Url.IsId segment := fun segment isIn =>
    (List.mem_append.1 isIn).elim (usable.plain segment) (plain segment)
  have writes : (guard (Http.isWritable session.token = true) : Option Unit) = some () :=
    if_pos usable.writable
  unfold Session.request?
  rw [isBase, String.append_assoc,
    bare.parse?_below (List.append_ne_nil_of_right_ne_nil _ nonempty) plainWhole writtenWhole,
    writes]
  rfl

/-- The address of a session has no query. -/
theorem Session.Usable.query (usable : session.Usable home) : home.query = none := by
  obtain ⟨base, front, -, bare, -⟩ := usable.address
  exact bare.query

/-- The plan sends a request, and if the response is there in time it ends with it. -/
def Sends (request : HttpRequest) (limit : Duration)
    (plan : Plan Http (Except InventoryError HttpResponse)) : Prop :=
  ∃ next, plan = .ask request next ∧ ∀ after response, after.nanoseconds ≤ limit.nanoseconds →
    next (.response after response) = do
      Plan.pause after
      return .ok response

/-- Waiting for a value no longer than a limit does not cut it off. -/
theorem within_pause {after limit : Duration} (inTime : after.nanoseconds ≤ limit.nanoseconds)
    (value : α) :
    ((do Plan.pause after; return value : Plan Http α).within limit.alarm) = do
      Plan.pause after
      return some value := by
  unfold Plan.pause
  split
  · rfl
  · have short : after.waited.nanoseconds ≤ limit.waited.nanoseconds :=
      Nat.le_min.2 ⟨Nat.le_trans (Nat.min_le_left _ _) inTime, Nat.min_le_right _ _⟩
    have waited := Nat.le_trans short limit.waited_le_alarm
    change (Plan.wait after.waited (.done value)).within limit.alarm =
      .wait after.waited (.done (some value))
    rw [Plan.within, if_pos waited]
    rfl

/-- A request within the time of the session is sent. -/
theorem sends_send {request : HttpRequest} {method : HttpMethod} {path : String}
    {fields : List (String × String)} {body : Option Json.Value}
    (written : session.request? method path fields body = some request)
    (requestable : request.url.isRequestable = true) :
    Sends request session.timeout (session.send method path fields body).run := by
  unfold Session.send
  rw [written]
  simp only [attempt, Http.exchangeWithin, Http.exchange, requestable]
  refine ⟨_, rfl, fun after response inTime => ?_⟩
  have whole := within_pause inTime (Except.ok response : Except SendFailure HttpResponse)
  have handedOn := congrArg (fun plan : Plan Http (Option (Except SendFailure HttpResponse)) =>
    Except.mapError session.failure <$> (Option.getD · (.error (.late request.url))) <$> plan) whole
  refine Eq.trans handedOn ?_
  unfold Plan.pause
  split <;> rfl

/-- A request without a deadline is sent. -/
theorem sends_exchange {request : HttpRequest} (requestable : request.url.isRequestable = true)
    (change : SendFailure → InventoryError) (limit : Duration) :
    Sends request limit ((attempt Http.exchange (some request)).mapError change).run := by
  simp only [attempt, Http.exchange, requestable]
  refine ⟨_, rfl, fun after response inTime => ?_⟩
  change Except.mapError change <$> (do Plan.pause after; return .ok response) = _
  unfold Plan.pause
  split <;> rfl

/-! ## Responses that come -/

variable {request : HttpRequest} {limit latency : Duration}
  {plan : Plan Http (Except InventoryError HttpResponse)} {reply : HttpResponse → Prop}
  {ends : σ → Prop} {kind : Except InventoryError α → Prop} {read : Json.Value → Option α}

/-- A plan that sends a request settles on the response. -/
theorem Sends.settles (sends : Sends request limit plan)
    (prompt : latency.nanoseconds ≤ limit.nanoseconds)
    (answers : ∀ state, good state → Answers handler latency request state reply good) :
    plan.Settles handler good fun result => ∃ response, result = .ok response ∧ reply response := by
  obtain ⟨next, rfl, heard⟩ := sends
  constructor
  · intro state isGood
    obtain ⟨response, last, ⟨after, soon, answer⟩, isReply, stays⟩ := answers state isGood
    rw [answer]
    exact stays
  · intro state isGood
    obtain ⟨response, last, ⟨after, soon, answer⟩, isReply, stays⟩ := answers state isGood
    rw [answer, heard after response (Nat.le_trans soon prompt)]
    apply (Plan.settles_pause after).bind
    exact fun _ _ => .done ⟨response, rfl, isReply⟩

/-- A plan that sends a request yields the response. -/
theorem Sends.yields (sends : Sends request limit plan)
    (prompt : latency.nanoseconds ≤ limit.nanoseconds) {state : σ}
    (answers : Answers handler latency request state reply ends) :
    plan.Yields handler
      (fun result last => ∃ response, result = .ok response ∧ reply response ∧ ends last)
      latency.nanoseconds state := by
  obtain ⟨next, rfl, heard⟩ := sends
  obtain ⟨response, last, ⟨after, soon, answer⟩, isReply, isEnd⟩ := answers
  have pauses : (do Plan.pause after; return .ok response :
      Plan Http (Except InventoryError HttpResponse)).Yields handler
        (fun result last => ∃ response, result = .ok response ∧ reply response ∧ ends last)
        (after.nanoseconds + 0) last := by
    apply (Plan.yields_pause after).bind
    rintro _ _ rfl
    exact Plan.yields_done ⟨response, rfl, isReply, isEnd⟩
  have whole : (Plan.ask request next).run handler state =
      (do Plan.pause after; return .ok response :
        Plan Http (Except InventoryError HttpResponse)).run handler last := by
    rw [← heard after response (Nat.le_trans soon prompt)]
    simp only [Plan.run, answer]
  rw [Plan.Yields, whole]
  exact pauses.mono (fun _ _ isEnd => isEnd) soon

/-- Reading what a response says settles on it. -/
theorem fetch_settles {method : HttpMethod} {path : String} {fields : List (String × String)}
    (sends : Sends request session.timeout (session.send method path fields none).run)
    (prompt : latency.nanoseconds ≤ session.timeout.nanoseconds)
    (answers : ∀ state, good state → Answers handler latency request state reply good)
    (reads : ∀ response, reply response → kind (decoded read response)) :
    (session.fetch read method path fields).run.Settles handler good kind := by
  apply (sends.settles prompt answers).bind
  rintro result ⟨response, rfl, isReply⟩
  exact .done (reads response isReply)

/-- Reading what a response says yields it. -/
theorem fetch_yields {method : HttpMethod} {path : String} {fields : List (String × String)}
    (sends : Sends request session.timeout (session.send method path fields none).run)
    (prompt : latency.nanoseconds ≤ session.timeout.nanoseconds) {state : σ}
    (answers : Answers handler latency request state reply ends)
    (reads : ∀ response, reply response → kind (decoded read response)) :
    (session.fetch read method path fields).run.Yields handler
      (fun result last => kind result ∧ ends last) latency.nanoseconds state := by
  have whole : (session.fetch read method path fields).run.Yields handler
      (fun result last => kind result ∧ ends last) (latency.nanoseconds + 0) state := by
    apply (sends.yields prompt answers).bind
    rintro result last ⟨response, rfl, isReply, isEnd⟩
    exact Plan.yields_done ⟨reads response isReply, isEnd⟩
  exact whole

end Vcenter

end NodeScaler
