import NodeScaler.Http.Exchange
import NodeScaler.Proofs.Plan.Asking

/-!
# What comes of a request

An exchange is refused at once if no request can be made of the address. Otherwise it asks its request
and does not ask anything more, whatever the reaction is.
-/

namespace NodeScaler.Http

open Plan (Asks)

variable {allowed : HttpRequest → Prop}

/-- What comes of a request once it is known how the host reacts. -/
def settle (url : Url) : Reaction → Attempt Http SendFailure HttpResponse
  | .response after response => .mk (Plan.pause after >>= fun _ => .done (.ok response))
  | .broken after => .mk (Plan.pause after >>= fun _ => .done (.error (.unanswered url)))
  | .lost after failure => .mk (Plan.pause after >>= fun _ => .done (.error (.misled failure)))
  | .silence => .mk .stall

/-- It asks nothing more. Only silence is waited for for ever. -/
theorem settle_asks (url : Url) (reaction : Reaction) :
    (settle url reaction).run.Asks (I := Http) allowed True := by
  cases reaction with
  | response after response => exact (Plan.asks_pause after).bind fun _ => .done _
  | broken after => exact (Plan.asks_pause after).bind fun _ => .done _
  | lost after failure => exact (Plan.asks_pause after).bind fun _ => .done _
  | silence => exact .stall trivial

/-- An exchange asks its request first. -/
theorem exchange_run (request : HttpRequest) (requestable : request.url.isRequestable = true) :
    (exchange request).run =
      .ask (I := Http) request fun reaction => (settle request.url reaction).run := by
  unfold exchange
  rw [requestable]
  refine congrArg (Plan.ask (I := Http) request) (funext fun reaction => ?_)
  cases reaction <;> rfl

/-- Nothing is asked at an address of which no request can be made. -/
theorem exchange_unrequestable (request : HttpRequest)
    (unrequestable : request.url.isRequestable = false) :
    (exchange request).run = .done (.error (.unrequestable request.url)) := by
  unfold exchange
  rw [unrequestable]
  rfl

/-- With a deadline, too, an exchange asks its request first. -/
theorem exchangeWithin_run (limit : Duration) (request : HttpRequest)
    (requestable : request.url.isRequestable = true) :
    (exchangeWithin limit request).run = .ask (I := Http) request fun reaction =>
      ((settle request.url reaction).within limit (.late request.url)).run := by
  unfold exchangeWithin Attempt.within
  rw [exchange_run request requestable]
  rfl

/-- The same refusal stands with a deadline. -/
theorem exchangeWithin_unrequestable (limit : Duration) (request : HttpRequest)
    (unrequestable : request.url.isRequestable = false) :
    (exchangeWithin limit request).run = .done (.error (.unrequestable request.url)) := by
  unfold exchangeWithin Attempt.within
  rw [exchange_unrequestable request unrequestable]
  rfl

/-- An exchange asks its request and nothing else. -/
theorem exchange_asks {request : HttpRequest} (isAllowed : allowed request) :
    (exchange request).run.Asks (I := Http) allowed True := by
  cases requestable : request.url.isRequestable with
  | false =>
    rw [exchange_unrequestable request requestable]
    exact .done _
  | true =>
    rw [exchange_run request requestable]
    exact .ask isAllowed (settle_asks request.url)

/-- A server that never reacts. -/
def mute : Handler Http Unit := fun _ state => (.silence, state)

end NodeScaler.Http
