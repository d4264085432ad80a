import NodeScaler.Proofs.Http.Exchange
import NodeScaler.Proofs.Plan.Concluding
import NodeScaler.Vcenter.Tagging

/-!
# What a request obtains

A request of a session obtains what its response says, if this is there in time, is a success and
can be read. Everything else is a failure of its own kind: there is no request that could be sent,
the connection breaks, the time is over, the status refuses, or the body is not of the expected
form. So no failure is ever taken for a value.
-/

namespace NodeScaler

open Plan (Awaits Concludes)

/-- The reaction is there within a span of time. -/
def Reaction.IsPrompt (limit : Duration) : Reaction → Prop
  | response after _ | broken after | lost after _ =>
    after.waited.nanoseconds ≤ limit.alarm.nanoseconds
  | silence => False

/-- The result of an exchange with a deadline, once it is known how the host reacts. -/
def Http.outcome (limit : Duration) (url : Url) : Reaction → Except SendFailure HttpResponse
  | .response after response =>
    if after.waited.nanoseconds ≤ limit.alarm.nanoseconds then .ok response
    else .error (.late url)
  | .broken after =>
    if after.waited.nanoseconds ≤ limit.alarm.nanoseconds then .error (.unanswered url)
    else .error (.late url)
  | .lost after failure =>
    if after.waited.nanoseconds ≤ limit.alarm.nanoseconds then .error (.misled failure)
    else .error (.late url)
  | .silence => .error (.late url)

/-- What is there after some time is the result, unless the time is over before. -/
theorem Http.settled_awaits (limit after : Duration) (url : Url)
    (result : Except SendFailure HttpResponse) :
    ((Option.getD · (.error (.late url))) <$>
      ((Plan.pause after >>= fun _ => .done result : Plan Http _).within limit.alarm)).Awaits
        (if after.waited.nanoseconds ≤ limit.alarm.nanoseconds then result
          else .error (.late url)) := by
  have settled := (Plan.awaits_within_pause (I := Http) limit after result).map
    (Option.getD · (Except.error (.late url)))
  split at settled
  · next inTime => rwa [if_pos inTime]
  · next late => rwa [if_neg late]

/-- Once it is known how the host reacts, the result is only waited for. -/
theorem Http.settle_awaits (limit : Duration) (url : Url) (reaction : Reaction) :
    ((settle url reaction).within limit (.late url)).run.Awaits (I := Http)
      (outcome limit url reaction) := by
  unfold Attempt.within settle outcome
  cases reaction with
  | response after response => exact settled_awaits limit after url (.ok response)
  | broken after => exact settled_awaits limit after url (.error (.unanswered url))
  | lost after failure => exact settled_awaits limit after url (.error (.misled failure))
  | silence =>
    exact (Plan.awaits_cut (I := Http) limit.alarm).map
      (Option.getD · (Except.error (.late url) : Except SendFailure HttpResponse))

/-- A response in time is the result. -/
theorem Http.outcome_response {limit after : Duration} {url : Url} {response : HttpResponse}
    (prompt : Reaction.IsPrompt limit (.response after response)) :
    outcome limit url (.response after response) = .ok response := if_pos prompt

/-- A connection that breaks in time is no answer. -/
theorem Http.outcome_broken {limit after : Duration} {url : Url}
    (prompt : Reaction.IsPrompt limit (.broken after)) :
    outcome limit url (.broken after) = .error (.unanswered url) := if_pos prompt

/-- A redirect that leads nowhere in time is no answer. -/
theorem Http.outcome_lost {limit after : Duration} {url : Url} {failure : RedirectFailure}
    (prompt : Reaction.IsPrompt limit (.lost after failure)) :
    outcome limit url (.lost after failure) = .error (.misled failure) := if_pos prompt

/-- Whatever is there too late is too late. -/
theorem Http.outcome_late {limit : Duration} {url : Url} {reaction : Reaction}
    (late : ¬reaction.IsPrompt limit) : outcome limit url reaction = .error (.late url) := by
  cases reaction with
  | response after response => exact if_neg late
  | broken after => exact if_neg late
  | lost after failure => exact if_neg late
  | silence => rfl

namespace Vcenter

variable {α : Type} {session : Session} {request : HttpRequest} {request? : Option HttpRequest}
  {method : HttpMethod} {path : String} {fields : List (String × String)}
  {body : Option Json.Value} {exchanges : List (Exchange Http)} {response : HttpResponse}
  {error : InventoryError}

/-! ## Requests -/

/-- What comes of a request that may not be writable, by the exchanges in which it is made. -/
inductive Session.Receives (session : Session) (request? : Option HttpRequest) :
    List (Exchange Http) → Except InventoryError HttpResponse → Prop where
  /-- There is no request that could be written. -/
  | unwritable (absent : request? = none) :
      Receives session request? [] (.error (.request SendFailure.unwritable.message))
  /-- No request can be made of the address. -/
  | unrequestable {request : HttpRequest} (isRequest : request? = some request)
      (unrequestable : request.url.isRequestable = false) :
      Receives session request? []
        (.error (.request (SendFailure.unrequestable request.url).message))
  /-- The host responds in time. -/
  | response {request : HttpRequest} {after : Duration} {response : HttpResponse}
      (isRequest : request? = some request) (requestable : request.url.isRequestable = true)
      (prompt : Reaction.IsPrompt session.timeout (.response after response)) :
      Receives session request? [⟨request, .response after response⟩] (.ok response)
  /-- The connection breaks in time. -/
  | broken {request : HttpRequest} {after : Duration}
      (isRequest : request? = some request) (requestable : request.url.isRequestable = true)
      (prompt : Reaction.IsPrompt session.timeout (.broken after)) :
      Receives session request? [⟨request, .broken after⟩]
        (.error (.request (SendFailure.unanswered request.url).message))
  /-- A redirect leads nowhere in time. -/
  | lost {request : HttpRequest} {after : Duration} {failure : RedirectFailure}
      (isRequest : request? = some request) (requestable : request.url.isRequestable = true)
      (prompt : Reaction.IsPrompt session.timeout (.lost after failure)) :
      Receives session request? [⟨request, .lost after failure⟩]
        (.error (.request (SendFailure.misled failure).message))
  /-- Nothing happens in time. -/
  | late {request : HttpRequest} {reaction : Reaction}
      (isRequest : request? = some request) (requestable : request.url.isRequestable = true)
      (tooLate : ¬reaction.IsPrompt session.timeout) :
      Receives session request? [⟨request, reaction⟩] (.error (.timeout session.timeout))

/-- What comes of a request that is sent is decided by how the host reacts. -/
theorem receives_iff_outcome (requestable : request.url.isRequestable = true)
    {result : Except InventoryError HttpResponse} :
    session.Receives (some request) exchanges result ↔ ∃ reaction,
      exchanges = [⟨request, reaction⟩] ∧
        result = (Http.outcome session.timeout request.url reaction).mapError session.failure := by
  constructor
  · intro receives
    cases receives with
    | unwritable absent => cases absent
    | unrequestable isRequest unrequestable =>
      cases isRequest
      rw [requestable] at unrequestable
      cases unrequestable
    | response isRequest _ prompt =>
      cases isRequest
      exact ⟨_, rfl, by rw [Http.outcome_response prompt]; rfl⟩
    | broken isRequest _ prompt =>
      cases isRequest
      exact ⟨_, rfl, by rw [Http.outcome_broken prompt]; rfl⟩
    | lost isRequest _ prompt =>
      cases isRequest
      exact ⟨_, rfl, by rw [Http.outcome_lost prompt]; rfl⟩
    | late isRequest _ tooLate =>
      cases isRequest
      exact ⟨_, rfl, by rw [Http.outcome_late tooLate]; rfl⟩
  · rintro ⟨reaction, rfl, rfl⟩
    by_cases prompt : reaction.IsPrompt session.timeout
    · cases reaction with
      | response after response =>
        rw [Http.outcome_response prompt]
        exact .response rfl requestable prompt
      | broken after =>
        rw [Http.outcome_broken prompt]
        exact .broken rfl requestable prompt
      | lost after failure =>
        rw [Http.outcome_lost prompt]
        exact .lost rfl requestable prompt
      | silence => exact prompt.elim
    · rw [Http.outcome_late prompt]
      exact .late rfl requestable prompt

/-- A session concludes from the exchanges what comes of its request. -/
theorem send_concludes {result : Except InventoryError HttpResponse} :
    (session.send method path fields body).run.Concludes exchanges result ↔
      session.Receives (session.request? method path fields body) exchanges result := by
  unfold Session.send
  cases isRequest : session.request? method path fields body with
  | none =>
    have whole : ((attempt (Http.exchangeWithin session.timeout) none).mapError
        session.failure).run = .done (.error (.request SendFailure.unwritable.message)) := rfl
    rw [whole, Plan.concludes_done]
    constructor
    · rintro ⟨rfl, rfl⟩
      exact .unwritable rfl
    · intro receives
      cases receives with
      | unwritable absent => exact ⟨rfl, rfl⟩
      | unrequestable isRequest | response isRequest | broken isRequest | lost isRequest
      | late isRequest => cases isRequest
  | some request =>
    have whole : ((attempt (Http.exchangeWithin session.timeout) (some request)).mapError
        session.failure).run =
          Except.mapError session.failure <$> (Http.exchangeWithin session.timeout request).run :=
      rfl
    rw [whole, Plan.concludes_map]
    cases requestable : request.url.isRequestable with
    | false =>
      rw [Http.exchangeWithin_unrequestable _ request requestable]
      simp only [Plan.concludes_done]
      constructor
      · rintro ⟨result, ⟨rfl, rfl⟩, rfl⟩
        exact .unrequestable rfl requestable
      · intro receives
        cases receives with
        | unwritable absent => cases absent
        | unrequestable isRequest =>
          cases isRequest
          exact ⟨_, ⟨rfl, rfl⟩, rfl⟩
        | response isRequest isRequestable | broken isRequest isRequestable
        | lost isRequest isRequestable | late isRequest isRequestable =>
          cases isRequest
          rw [requestable] at isRequestable
          cases isRequestable
    | true =>
      rw [Http.exchangeWithin_run _ request requestable, receives_iff_outcome requestable]
      simp only [Plan.concludes_ask, (Http.settle_awaits _ _ _).concludes_iff]
      constructor
      · rintro ⟨result, ⟨reaction, later, rfl, rfl, rfl⟩, rfl⟩
        exact ⟨reaction, rfl, rfl⟩
      · rintro ⟨reaction, rfl, rfl⟩
        exact ⟨_, ⟨reaction, [], rfl, rfl, rfl⟩, rfl⟩

/-! ## Responses -/

/-- The response is a success. -/
def IsSuccess (response : HttpResponse) : Prop := 200 ≤ response.status ∧ response.status < 300

/-- The response is no success, and this is how its status refuses. -/
inductive Refuses (response : HttpResponse) : InventoryError → Prop where
  /-- Who asks is unknown or may not ask. -/
  | auth (status : response.status = 401 ∨ response.status = 403) :
      Refuses response (.auth response.body)
  /-- What is asked for is not there. -/
  | notFound (status : response.status = 404) : Refuses response (.notFound response.body)
  /-- What is asked for is there already, as the body says. -/
  | alreadyExists (status : response.status = 400) (isTaken : takenWord <:+: response.body.toList) :
      Refuses response (.alreadyExists response.body)
  /-- Any other status refuses as such. -/
  | status (failed : ¬IsSuccess response) (known : response.status ∉ [401, 403, 404])
      (other : ¬(response.status = 400 ∧ takenWord <:+: response.body.toList)) :
      Refuses response (.status response.status response.body)

/-- A word occurs in a text that has it somewhere. -/
theorem occursIn_iff {word text : List Char} : occursIn word text = true ↔ word <:+: text := by
  induction text with
  | nil => simp [occursIn]
  | cons first rest inductionHypothesis =>
    rw [occursIn, Bool.or_eq_true, List.isPrefixOf_iff_prefix, inductionHypothesis,
      List.infix_cons_iff]

/-- A success is let through. -/
theorem checked_of_isSuccess (success : IsSuccess response) : checked response = .ok response :=
  if_pos success

/-- All else is refused. -/
theorem exists_refuses (failed : ¬IsSuccess response) : ∃ error, Refuses response error := by
  by_cases known : response.status ∈ [401, 403, 404]
  · by_cases isThere : response.status = 404
    · exact ⟨_, .notFound isThere⟩
    · exact ⟨_, .auth (by simpa [isThere] using known)⟩
  · by_cases taken : response.status = 400 ∧ takenWord <:+: response.body.toList
    · exact ⟨_, .alreadyExists taken.1 taken.2⟩
    · exact ⟨_, .status failed known taken⟩

/-- How a response is refused is seen from its status, and from its body if need be. -/
theorem checked_eq_error_iff : checked response = .error error ↔ Refuses response error := by
  unfold checked
  simp only [occursIn_iff]
  constructor
  · intro refused
    split at refused
    · cases refused
    · next failed =>
      split at refused
      · next status =>
        cases refused
        exact .auth status
      · next knows =>
        split at refused
        · next status =>
          cases refused
          exact .notFound status
        · next isThere =>
          split at refused
          · next taken =>
            cases refused
            exact .alreadyExists taken.1 taken.2
          · next other =>
            cases refused
            rw [not_or] at knows
            exact .status failed (by simp [knows, isThere]) other
  · intro refuses
    cases refuses with
    | auth status =>
      rw [if_neg (by omega), if_pos status]
    | notFound status =>
      rw [if_neg (by omega), if_neg (by omega), if_pos status]
    | alreadyExists status isTaken =>
      rw [if_neg (by omega), if_neg (by omega), if_neg (by omega), if_pos ⟨status, isTaken⟩]
    | status failed known other =>
      unfold IsSuccess at failed
      simp only [List.mem_cons, List.not_mem_nil, or_false, not_or] at known
      rw [if_neg failed, if_neg (by omega), if_neg known.2.2, if_neg other]

/-- What a response says. -/
inductive Says (read : Json.Value → Option α) (response : HttpResponse) :
    Except InventoryError α → Prop where
  /-- A success says what its body stands for. -/
  | value {value : α} (success : IsSuccess response)
      (stands : (Json.Value.read? response.body.toList).bind read = some value) :
      Says read response (.ok value)
  /-- The body of a success does not have the expected form. -/
  | undecodable (success : IsSuccess response)
      (unreadable : (Json.Value.read? response.body.toList).bind read = none) :
      Says read response (.error (.decode "error decoding response body"))
  /-- The response is no success. -/
  | refused {error : InventoryError} (refuses : Refuses response error) :
      Says read response (.error error)

/-- The body of a success is read. -/
theorem decoded_of_isSuccess (read : Json.Value → Option α) (success : IsSuccess response) :
    decoded read response = match (Json.Value.read? response.body.toList).bind read with
      | some value => .ok value
      | none => .error (.decode "error decoding response body") := by
  unfold decoded
  rw [checked_of_isSuccess success]
  rfl

/-- A response is read as what it says. -/
theorem decoded_eq_iff {read : Json.Value → Option α} {result : Except InventoryError α} :
    decoded read response = result ↔ Says read response result := by
  constructor
  · rintro rfl
    by_cases success : IsSuccess response
    · rw [decoded_of_isSuccess read success]
      cases stands : (Json.Value.read? response.body.toList).bind read with
      | some value => exact .value success stands
      | none => exact .undecodable success stands
    · obtain ⟨error, refuses⟩ := exists_refuses success
      unfold decoded
      rw [checked_eq_error_iff.2 refuses]
      exact .refused refuses
  · intro said
    cases said with
    | value success stands => rw [decoded_of_isSuccess read success, stands]
    | undecodable success unreadable => rw [decoded_of_isSuccess read success, unreadable]
    | refused refuses =>
      unfold decoded
      rw [checked_eq_error_iff.2 refuses]
      rfl

/-! ## Requests that are read -/

/-- What a request obtains, by the exchanges in which it is made. -/
inductive Session.Obtains (session : Session) (read : Json.Value → Option α)
    (request? : Option HttpRequest) : List (Exchange Http) → Except InventoryError α → Prop where
  /-- There is no response. -/
  | unanswered {exchanges : List (Exchange Http)} {error : InventoryError}
      (receives : session.Receives request? exchanges (.error error)) :
      Obtains session read request? exchanges (.error error)
  /-- There is a response, which says something. -/
  | answered {exchanges : List (Exchange Http)} {response : HttpResponse}
      {result : Except InventoryError α}
      (receives : session.Receives request? exchanges (.ok response))
      (said : Says read response result) : Obtains session read request? exchanges result

/-- A session concludes from the exchanges what its request obtains. -/
theorem fetch_concludes {read : Json.Value → Option α} {result : Except InventoryError α} :
    (session.fetch read method path fields).run.Concludes exchanges result ↔
      session.Obtains read (session.request? method path fields none) exchanges result := by
  unfold Session.fetch
  rw [Plan.concludes_attempt]
  simp only [send_concludes]
  constructor
  · rintro (⟨error, rfl, receives⟩ | ⟨response, before, after, rfl, receives, said⟩)
    · exact .unanswered receives
    · obtain ⟨rfl, rfl⟩ := Plan.concludes_done.1 said
      rw [List.append_nil]
      exact .answered receives (decoded_eq_iff.1 rfl)
  · intro obtains
    cases obtains with
    | unanswered receives => exact .inl ⟨_, rfl, receives⟩
    | answered receives said =>
      have isRead := decoded_eq_iff.2 said
      exact .inr ⟨_, _, [], (List.append_nil _).symm, receives,
        Plan.concludes_done.2 ⟨rfl, isRead.symm⟩⟩

end Vcenter

end NodeScaler
