import NodeScaler.Http.Exchange
import NodeScaler.Inventory.Error
import NodeScaler.Json.Reader
import NodeScaler.Text.Base64

/-!
# Sessions with the platform

Logging in gives a token, which every later request carries in a header. The password is
part of the login request alone. A response counts as success by its status; what its body
says otherwise depends on the status, and a body that does not have the expected form is a
failure too.
-/

namespace NodeScaler.Vcenter

/-- A session. -/
structure Session where
  /-- What the addresses of requests begin with: scheme, host, port, and a path if any. -/
  base : String
  /-- The token. -/
  token : String
  /-- Any certificate of the host is accepted. -/
  insecure : Bool
  /-- The time a request may take. -/
  timeout : Duration
deriving DecidableEq, Repr

/-- The header that carries the token. -/
def tokenHeader : String := "vmware-api-session-id"

/-- The value of the header that names a user and a password. -/
def credentials (user password : String) : String :=
  "Basic " ++ String.ofList (Text.Base64.encode (user ++ ":" ++ password).toUTF8.toList)

/-! ## Responses -/

/-- The word that the platform uses for a name that is taken. -/
def takenWord : List Char := "ALREADY_EXISTS".toList

/-- The word occurs somewhere in a text. -/
def occursIn (word : List Char) : List Char → Bool
  | [] => word.isEmpty
  | c :: rest => word.isPrefixOf (c :: rest) || occursIn word rest

/-- The response, if its status means success. -/
def checked (response : HttpResponse) : Except InventoryError HttpResponse :=
  let body := response.body
  if 200 ≤ response.status ∧ response.status < 300 then .ok response
  else if response.status = 401 ∨ response.status = 403 then .error (.auth body)
  else if response.status = 404 then .error (.notFound body)
  else if response.status = 400 ∧ occursIn takenWord body.toList then
    .error (.alreadyExists body)
  else .error (.status response.status body)

/-- What a successful response says, read from the JSON of its body. -/
def decoded {α : Type} (read : Json.Value → Option α) (response : HttpResponse) :
    Except InventoryError α := do
  match (Json.Value.read? (← checked response).body.toList).bind read with
  | some value => return value
  | none => throw (.decode "error decoding response body")

/-! ## Logging in -/

/-- The name of a status that refuses a login. -/
def refusalText (status : Nat) : String :=
  if status = 401 then "401 Unauthorized" else "403 Forbidden"

/-- The headers for a user who is named in the address itself. -/
def addressHeaders (url : Url) : List (String × String) :=
  match url.user with
  | some (user, password) => [("authorization", credentials user (password.getD ""))]
  | none => []

/-- The text without slashes at its end. -/
def withoutSlashes (text : String) : String :=
  String.ofList (text.toList.reverse.dropWhile (· == '/')).reverse

/-- The login request, if its address can be read. -/
def loginRequest? (base user password : String) (insecure : Bool) : Option HttpRequest := do
  let url ← Url.parse? (base ++ "/api/session")
  return {
    method := .post
    url := url
    headers := addressHeaders url ++ [("authorization", credentials user password)]
    body := none
    insecure := insecure }

/-- Makes a request that may not be writable, and waits for the response. -/
def attempt (send : HttpRequest → Attempt Http SendFailure HttpResponse)
    (request : Option HttpRequest) : Attempt Http SendFailure HttpResponse :=
  match request with
  | some request => send request
  | none => throw .unwritable

/-- Logs in at an address. -/
def login (address user password : String) (insecure : Bool) (timeout : Duration) :
    Attempt Http InventoryError Session := do
  let base := withoutSlashes address
  let response ← (attempt (Http.exchangeWithin timeout)
    (loginRequest? base user password insecure)).mapError fun failure =>
      .request ("session login failed: " ++ failure.message)
  if response.status = 401 ∨ response.status = 403 then
    throw (.auth s!"login as {user} rejected with {refusalText response.status}")
  let token ← ExceptT.mk (pure (decoded Json.Value.text? response))
  return ⟨base, token, insecure, timeout⟩

/-! ## Requests -/

namespace Session

/-- A request of the session, if its address can be read and the token be written. -/
def request? (session : Session) (method : HttpMethod) (path : String)
    (fields : List (String × String)) (body : Option Json.Value) : Option HttpRequest := do
  let url ← Url.parse? (session.base ++ path)
  guard (Http.isWritable session.token)
  return {
    method := method
    url := url.withFields fields
    headers := addressHeaders url ++ [(tokenHeader, session.token)]
    body := body
    insecure := session.insecure }

/-- The failure of a request of the session. -/
def failure (session : Session) : SendFailure → InventoryError
  | .late _ => .timeout session.timeout
  | failure => .request failure.message

/-- Makes a request within the time that a request may take. -/
def send (session : Session) (method : HttpMethod) (path : String)
    (fields : List (String × String)) (body : Option Json.Value) :
    Attempt Http InventoryError HttpResponse :=
  (attempt (Http.exchangeWithin session.timeout)
    (session.request? method path fields body)).mapError session.failure

/-- Makes a request and reads what the response says. -/
def fetch {α : Type} (session : Session) (read : Json.Value → Option α) (method : HttpMethod)
    (path : String) (fields : List (String × String)) : Attempt Http InventoryError α := do
  let response ← session.send method path fields none
  .mk (pure (decoded read response))

end Session

end NodeScaler.Vcenter
