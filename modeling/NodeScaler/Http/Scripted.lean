import NodeScaler.Http.Redirect

/-!
# Scripted servers

A scripted server stands at one address and answers by a list of routes, the first that fits
a request. A route asks for a method and a path, perhaps for a query, and holds for a stretch
of the server's history, counted in changes: the clones and attachments received before. It
may also be used up. No route fits: the status is 404. The server keeps the requests that
reach it; one that listens to nobody breaks every connection and keeps nothing.

No route names another location, so a status that could redirect is handed on like any other. A
body that is itself a response, behind an interim status, could name one; such bodies are left out.
-/

namespace NodeScaler

/-- What a route does with a request. -/
inductive RouteAction where
  /-- It responds. -/
  | respond (response : HttpResponse)
  /-- It drops the connection. -/
  | drop
  /-- It never responds. -/
  | hang
deriving DecidableEq, Repr

/-- A rule of a scripted server. -/
structure Route where
  /-- The method. -/
  method : String
  /-- The path, as it is sent. -/
  path : String
  /-- The query, as it is sent; any query if none is given. -/
  query : Option String
  /-- The number of changes from which the route holds. -/
  after : Nat
  /-- The number of changes until which the route holds, if it ends. -/
  before : Option Nat
  /-- The number of requests that it still serves, if they are limited. -/
  uses : Option Nat
  /-- What it does. -/
  action : RouteAction
deriving DecidableEq, Repr

/-- A server that follows a script. -/
structure ScriptedServer where
  /-- The scheme that it speaks. -/
  scheme : Scheme
  /-- Its host with its port. -/
  authority : String
  /-- Its certificate can be verified. -/
  certified : Bool
  /-- It accepts connections. -/
  listening : Bool
  /-- Its rules. -/
  routes : List Route
  /-- The requests that have reached it. -/
  received : List HttpRequest

namespace ScriptedServer

/-- The time that a response takes. -/
def latency : Duration := ⟨1000⟩

/-- The request changes something: it clones or attaches. -/
def isChange (request : HttpRequest) : Bool :=
  request.method == .post &&
    (request.url.target.endsWith "action=clone" || request.url.target.endsWith "action=attach")

/-- The number of changes received. -/
def changes (server : ScriptedServer) : Nat := (server.received.filter isChange).length

/-- A route fits a request when so many changes came before. -/
def fits (changes : Nat) (request : HttpRequest) (route : Route) : Bool :=
  route.method == request.method.name && route.path == request.url.pathText &&
    (route.query.isNone || route.query == some (request.url.query.getD "")) &&
    route.after ≤ changes && route.before.all (changes < ·) && route.uses.all (0 < ·)

/-- The action of the first route that has the property, and the routes with one use less of
it. -/
def use (property : Route → Bool) : List Route → Option RouteAction × List Route
  | [] => (none, [])
  | route :: rest =>
    if property route then
      (some route.action, { route with uses := route.uses.map (· - 1) } :: rest)
    else
      let (action, rest) := use property rest
      (action, route :: rest)

/-- The status only announces an answer. -/
def isInterim (status : Nat) : Bool := 100 ≤ status && status < 200 && status != 101

/-- The status allows no body. -/
def isBodiless (status : Nat) : Bool := [101, 204, 304].contains status

/-- What comes of a response. The body behind an interim status stands where the answer should
begin; no response is read from it, so the connection breaks. -/
def delivered (response : HttpResponse) : WireReply :=
  if isInterim response.status then
    if response.body = "" then .silence else .broken latency
  else if isBodiless response.status then .response latency { response with body := "" } none
  else .response latency response none

/-- A request gets through to the server. -/
def isReached (server : ScriptedServer) (request : HttpRequest) : Bool :=
  server.listening && request.url.scheme == server.scheme &&
    request.url.authority == server.authority &&
    (server.scheme == .http || server.certified || request.insecure)

/-- What the server replies to a request, and the server after it. -/
def reply : Handler Wire ScriptedServer
  | request, server =>
    if server.isReached request then
      let (action, routes) := use (fits server.changes request) server.routes
      let said := match action with
        | none => WireReply.response latency ⟨404, ""⟩ none
        | some (.respond response) => delivered response
        | some .drop => .broken latency
        | some .hang => .silence
      (said, { server with routes, received := server.received ++ [request] })
    else (.broken .zero, server)

/-- What comes of a request to the server with the standard redirects. -/
def answer : Handler Http ScriptedServer :=
  (Redirects.standard Redirects.wholeAddress).client reply

end ScriptedServer

end NodeScaler
