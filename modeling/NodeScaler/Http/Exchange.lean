import NodeScaler.Http.Url
import NodeScaler.Json.Writer
import NodeScaler.Plan.Basic

/-!
# Exchanges

A request goes to the host of its address, and an exchange is one request and what comes of
it in the end: a response after some time, a connection that breaks, or silence. A request
fails before it is sent when its address or a header cannot be written; it fails for good when
its deadline is over.

The client library follows redirects by itself, and only what the last host says is the response
of an exchange. Which requests are sent meanwhile is the matter of `Redirects`; here a redirect
shows only in failures, which name the address that it has led to. A deadline that is over during
a redirect is still reported with the address of the request itself.

Of a response nothing but its status and its whole body is kept. Other headers have no effect on
the program, and a body that breaks off or comes too late is left out.
-/

namespace NodeScaler

/-- The methods in use. -/
inductive HttpMethod where
  /-- Reads. -/
  | get
  /-- Acts. -/
  | post
deriving DecidableEq, Repr

/-- The name of a method. -/
def HttpMethod.name : HttpMethod → String
  | get => "GET"
  | post => "POST"

/-- A request. -/
structure HttpRequest where
  /-- The method. -/
  method : HttpMethod
  /-- The address. -/
  url : Url
  /-- The headers, in lower case. -/
  headers : List (String × String)
  /-- The body, in JSON. -/
  body : Option Json.Value
  /-- Any certificate of the host is accepted. -/
  insecure : Bool

/-- The value of a header, if the request has it. -/
def HttpRequest.header? (request : HttpRequest) (name : String) : Option String :=
  request.headers.lookup name

/-- A response. -/
structure HttpResponse where
  /-- The status. -/
  status : Nat
  /-- The body. -/
  body : String
deriving DecidableEq, Repr

/-- Why a redirect leads nowhere. -/
inductive RedirectFailure where
  /-- The host that it leads to does not respond. -/
  | unanswered (url : Url)
  /-- There have been too many before it; this is the address that it starts from. -/
  | tooMany (url : Url)
  /-- It leads to an address with a scheme that cannot be requested. -/
  | foreign (address : String)
deriving DecidableEq, Repr

/-- The text of a failure. -/
def RedirectFailure.message : RedirectFailure → String
  | unanswered url => s!"error sending request for url ({url.text})"
  | tooMany url => s!"error following redirect for url ({url.text})"
  | foreign address => s!"builder error for url ({address})"

/-- What comes of a request, after all redirects. -/
inductive Reaction where
  /-- A response, after some time. -/
  | response (after : Duration) (response : HttpResponse)
  /-- The connection breaks, or cannot be made, after some time. -/
  | broken (after : Duration)
  /-- A redirect leads nowhere, as turns out after some time. -/
  | lost (after : Duration) (failure : RedirectFailure)
  /-- Nothing ever. -/
  | silence
deriving DecidableEq, Repr

/-- Requests, and what comes of them. -/
abbrev Http : Interface := ⟨HttpRequest, fun _ => Reaction⟩

/-- Why there is no response. -/
inductive SendFailure where
  /-- The request cannot be written. -/
  | unwritable
  /-- No request can be made of the address. -/
  | unrequestable (url : Url)
  /-- The host does not respond. -/
  | unanswered (url : Url)
  /-- A redirect leads nowhere. -/
  | misled (failure : RedirectFailure)
  /-- The response is not there in time. -/
  | late (url : Url)
deriving DecidableEq, Repr

/-- The text of a failure. A deadline is not told from a host that does not respond. -/
def SendFailure.message : SendFailure → String
  | unwritable => "builder error"
  | unrequestable url => s!"builder error for url ({url.text})"
  | unanswered url | late url => s!"error sending request for url ({url.text})"
  | misled failure => failure.message

namespace Http

/-- Sends a request, if one can be made of its address, and waits for the response, for ever
if need be. -/
def exchange (request : HttpRequest) : Attempt Http SendFailure HttpResponse := .mk do
  if !request.url.isRequestable then return .error (.unrequestable request.url)
  match ← Plan.question (I := Http) request with
  | .response after response =>
    Plan.pause after
    return .ok response
  | .broken after =>
    Plan.pause after
    return .error (.unanswered request.url)
  | .lost after failure =>
    Plan.pause after
    return .error (.misled failure)
  | .silence => Plan.stall

/-- Sends a request and waits for the response until a deadline. -/
def exchangeWithin (limit : Duration) (request : HttpRequest) :
    Attempt Http SendFailure HttpResponse :=
  (exchange request).within limit (.late request.url)

/-- The value of a header can be written: it holds no control characters but tabs. -/
def isWritable (value : String) : Bool :=
  value.toList.all fun c => c == '\t' || (' ' ≤ c && c != '\x7f')

end Http

end NodeScaler
