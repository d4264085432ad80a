import NodeScaler.Http.Exchange
import NodeScaler.Plan.Run

/-!
# Redirects

On the wire a request is answered by one host. If the response names another location, the client
library may send a request there instead of handing the response on, and so forth, up to a number
of times. A client that follows redirects makes one exchange of all these requests.

When a response leads elsewhere, and to which request, is a rule of the library; it is a parameter
here. `Redirects.standard` is the rule that the library follows unless told otherwise, over a way of
reading locations.

All requests of an exchange are taken together, at the time of the first one. So a request that
would not be sent because the deadline of its exchange is over counts as sent, to a host that need
not have heard of it; and of two exchanges side by side the first one is through with its redirects
before the other begins, although on the wire they may alternate.
-/

namespace NodeScaler

/-- What comes of a request on the wire. -/
inductive WireReply where
  /-- A response, after some time, with the header for another location if it has one. -/
  | response (after : Duration) (response : HttpResponse) (location : Option String)
  /-- The connection breaks, or cannot be made, after some time. -/
  | broken (after : Duration)
  /-- Nothing ever. -/
  | silence
deriving DecidableEq, Repr

/-- Requests on the wire, and what comes of them. -/
abbrev Wire : Interface := ⟨HttpRequest, fun _ => WireReply⟩

/-- What a client library does with a response. -/
inductive RedirectStep where
  /-- It is the answer. -/
  | answer
  /-- It leads to another request. -/
  | request (next : HttpRequest)
  /-- It leads to an address with a scheme that cannot be requested. -/
  | foreign (address : String)

/-- How a client library follows redirects. -/
structure Redirects where
  /-- The greatest number of redirects in one exchange. -/
  most : Nat
  /-- What is done with a response to a request, and its header for another location. -/
  step : HttpRequest → HttpResponse → Option String → RedirectStep

/-- What comes of a request that was sent after some time, because a redirect has led to its
address. -/
def Reaction.redirected (before : Duration) (url : Url) : Reaction → Reaction
  | .response after said => .response (before.plus after) said
  | .broken after => .lost (before.plus after) (.unanswered url)
  | .lost after failure => .lost (before.plus after) failure
  | .silence => .silence

namespace Redirects

variable {σ : Type}

/-! ## Following -/

/-- Sends a request, and the requests that redirects lead to, of which so many are left. -/
def pursue (redirects : Redirects) (server : Handler Wire σ) :
    Nat → HttpRequest → σ → Reaction × σ
  | left, request, state =>
    match server request state with
    | (.broken after, state) => (.broken after, state)
    | (.silence, state) => (.silence, state)
    | (.response after response location, state) =>
      match redirects.step request response location, left with
      | .answer, _ => (.response after response, state)
      | _, 0 => (.lost after (.tooMany request.url), state)
      | .foreign address, _ => (.lost after (.foreign address), state)
      | .request next, left + 1 =>
        let (reaction, state) := redirects.pursue server left next state
        (reaction.redirected after next.url, state)

section

variable {redirects : Redirects} {server : Handler Wire σ} {request : HttpRequest} {state last : σ}
  {after : Duration} {response : HttpResponse} {location : Option String}

/-- A connection that breaks ends the pursuit. -/
theorem pursue_broken (reply : server request state = (.broken after, last)) (left : Nat) :
    redirects.pursue server left request state = (.broken after, last) := by
  unfold pursue
  rw [reply]

/-- Silence ends the pursuit. -/
theorem pursue_silence (reply : server request state = (.silence, last)) (left : Nat) :
    redirects.pursue server left request state = (.silence, last) := by
  unfold pursue
  rw [reply]

/-- A response that leads nowhere else ends the pursuit. -/
theorem pursue_answer (reply : server request state = (.response after response location, last))
    (answers : redirects.step request response location = .answer) (left : Nat) :
    redirects.pursue server left request state = (.response after response, last) := by
  unfold pursue
  rw [reply]
  dsimp only
  rw [answers]

/-- Without a redirect left, a response that leads elsewhere ends the pursuit. -/
theorem pursue_exhausted (reply : server request state = (.response after response location, last))
    (leads : redirects.step request response location ≠ .answer) :
    redirects.pursue server 0 request state = (.lost after (.tooMany request.url), last) := by
  unfold pursue
  rw [reply]
  dsimp only
  cases step : redirects.step request response location with
  | answer => exact absurd step leads
  | request next => rfl
  | foreign address => rfl

/-- A scheme that cannot be requested ends the pursuit. -/
theorem pursue_foreign {address : String}
    (reply : server request state = (.response after response location, last))
    (leads : redirects.step request response location = .foreign address) (left : Nat) :
    redirects.pursue server (left + 1) request state = (.lost after (.foreign address), last) := by
  rw [pursue, reply]
  dsimp only
  rw [leads]
  rfl

/-- A redirect goes on with the request to which it leads. -/
theorem pursue_followed {next : HttpRequest}
    (reply : server request state = (.response after response location, last))
    (leads : redirects.step request response location = .request next) (left : Nat) :
    redirects.pursue server (left + 1) request state =
      let (reaction, final) := redirects.pursue server left next last
      (reaction.redirected after next.url, final) := by
  rw [pursue, reply]
  dsimp only
  rw [leads]

end

/-- What comes of requests to a server in the end. -/
def client (redirects : Redirects) (server : Handler Wire σ) : Handler Http σ
  | request, state => redirects.pursue server redirects.most request state

/-! ## The standard rule -/

/-- Where a location leads. -/
inductive Destination where
  /-- To an address. -/
  | address (url : Url)
  /-- To an address with a scheme that cannot be requested. -/
  | foreign (text : String)

/-- The response leads to another location, if it names one. -/
def isRedirect (status : Nat) : Bool := [301, 302, 303, 307, 308].contains status

/-- The request is to be made again as it was, at the other location. Otherwise it becomes a mere
read. -/
def isRepeated (status : Nat) : Bool := [307, 308].contains status

/-- The addresses have the same host and port. -/
def sameHost (first second : Url) : Bool :=
  first.host == second.host &&
    first.port.getD first.scheme.port == second.port.getD second.scheme.port

/-- The headers for a request at another location, with the address that leads there. A user is not
named to another host, and an address is not told without encryption if it was requested with it. -/
def headersFor (origin target : Url) (headers : List (String × String)) :
    List (String × String) :=
  let headers := if sameHost origin target then headers
    else headers.filter (·.1 != "authorization")
  if origin.scheme = .https ∧ target.scheme = .http then headers
  else headers.filter (·.1 != "referer") ++
    [("referer", ({ origin with user := none, unread := none, fragment := none } : Url).text)]

/-- The request at another location. -/
def followUp (request : HttpRequest) (status : Nat) (target : Url) : HttpRequest where
  method := if isRepeated status then request.method else .get
  url := target
  headers := headersFor request.url target request.headers
  body := if isRepeated status then request.body else none
  insecure := request.insecure

/-- The rule that the library follows unless told otherwise. `read?` is how it reads a location,
seen from the address of the request. A location that it cannot read, or of which no request can
be made, is ignored. -/
def standard (read? : Url → String → Option Destination) : Redirects where
  most := 10
  step request response location :=
    if isRedirect response.status then
      match location.bind (read? request.url) with
      | some (.address url) =>
        if url.isRequestable then .request (followUp request response.status url) else .answer
      | some (.foreign address) => .foreign address
      | none => .answer
    else .answer

/-- Reads a location that is a whole address. -/
def wholeAddress (_ : Url) (location : String) : Option Destination :=
  (Url.parse? location).map .address

end Redirects

end NodeScaler
