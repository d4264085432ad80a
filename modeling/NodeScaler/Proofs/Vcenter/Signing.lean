import NodeScaler.Proofs.Http.Signature
import NodeScaler.Proofs.Http.User
import NodeScaler.Proofs.Vcenter.Asking

/-!
# Who signs requests

A request is signed by the headers that name a user. The login is signed with the password, and that is
all that the password does: what the login asks for, and what it makes of the reaction, is the same
with any other. No other request is signed, unless its address names a user in front of the host; then
all addresses of the session name the same one.
-/

namespace NodeScaler

open Plan (Asks)

namespace Vcenter

variable {session : Session} {request : HttpRequest} {url : Url}

/-- The headers for a user in an address are signatures. -/
theorem addressHeaders_signatures (url : Url) :
    (addressHeaders url).filter (·.1 == "authorization") = addressHeaders url := by
  unfold addressHeaders
  split <;> rfl

/-- The headers for a user in an address depend on the user alone. -/
theorem addressHeaders_eq {twin : Url} (same : url.user = twin.user) :
    addressHeaders url = addressHeaders twin := by
  unfold addressHeaders
  rw [same]

/-- A request of a session is signed by the user whom its address names, and by no other. -/
theorem Session.Makes.signatures (makes : session.Makes request) :
    ∃ path url, IsApi path ∧ Url.parse? (session.base ++ path) = some url ∧
      request.signatures = addressHeaders url := by
  obtain ⟨method, path, fields, body, isApi, asked⟩ := makes
  obtain ⟨url, reads, rfl⟩ := Session.request?_eq_some asked
  have noSignature : [(tokenHeader, session.token)].filter (·.1 == "authorization") = [] := rfl
  refine ⟨path, url, isApi, reads, ?_⟩
  simp only [HttpRequest.signatures, List.filter_append, noSignature, List.append_nil]
  exact addressHeaders_signatures url

/-! ## The user of a session -/

/-- The addresses for a server begin with their scheme, and what follows it is taken from the setting,
apart from slashes. -/
theorem withoutSlashes_https (server : String) :
    ∃ base, (withoutSlashes ("https://" ++ server)).toList = "https:".toList ++ base ∧
      ∀ c ∈ base, c = '/' ∨ c ∈ server.toList := by
  have reversed : ("https://" ++ server).toList.reverse =
      server.toList.reverse ++ "//".toList ++ "https:".toList.reverse := by
    simp
  have stops : ("https:".toList.reverse).dropWhile (· == '/') = "https:".toList.reverse := rfl
  unfold withoutSlashes
  rw [String.toList_ofList, reversed, List.dropWhile_append, stops]
  split
  · exact ⟨[], by simp, fun c isIn => absurd isIn List.not_mem_nil⟩
  · refine ⟨((server.toList.reverse ++ "//".toList).dropWhile (· == '/')).reverse, by simp, ?_⟩
    intro c isIn
    have kept := (List.dropWhile_suffix _).subset (List.mem_reverse.1 isIn)
    simpa [or_comm] using kept

/-- All addresses for a server have the same user, and none if the setting holds no `@`. -/
theorem exists_user (server : String) :
    ∃ user, ('@' ∉ server.toList → user = none) ∧ ∀ path url, IsApi path →
      Url.parse? (withoutSlashes ("https://" ++ server) ++ path) = some url → url.user = user := by
  obtain ⟨base, whole, onlyServer⟩ := withoutSlashes_https server
  refine ⟨Url.userBelow? base, fun unnamed => Url.userBelow?_eq_none fun isIn => ?_, ?_⟩
  · rcases onlyServer '@' isIn with same | isIn
    · exact absurd same (by decide)
    · exact unnamed isIn
  · rintro path url ⟨rest, isPath⟩ reads
    have below : (withoutSlashes ("https://" ++ server) ++ path).toList =
        "https:".toList ++ (base ++ ("/api/".toList ++ rest)) := by
      rw [String.toList_append, whole, ← isPath, List.append_assoc]
    exact Url.user_below below reads

/-- Without an `@` in the setting no header names a user of the address. -/
theorem addressHeaders_unnamed {server path : String} (unnamed : '@' ∉ server.toList)
    (isApi : IsApi path)
    (reads : Url.parse? (withoutSlashes ("https://" ++ server) ++ path) = some url) :
    addressHeaders url = [] := by
  obtain ⟨user, isNone, same⟩ := exists_user server
  have isUser : url.user = none := (same path url isApi reads).trans (isNone unnamed)
  rw [addressHeaders, isUser]

/-! ## The login -/

/-- The token that a login comes to once it is known how the platform reacts. -/
def tokenTold (user : String) (timeout : Duration) (url : Url) (reaction : Reaction) :
    Attempt Http InventoryError String := do
  let response ← ((Http.settle url reaction).within timeout (.late url)).mapError fun failure =>
    .request ("session login failed: " ++ failure.message)
  if response.status = 401 ∨ response.status = 403 then
    throw (.auth s!"login as {user} rejected with {refusalText response.status}")
  ExceptT.mk (pure (decoded Json.Value.text? response))

/-- It asks nothing more. -/
theorem tokenTold_asks (user : String) (timeout : Duration) (url : Url) (reaction : Reaction)
    {allowed : HttpRequest → Prop} :
    (tokenTold user timeout url reaction).run.Asks (I := Http) allowed False := by
  refine Asks.attempt (((Http.settle_asks url reaction).attemptWithin timeout _).mapError _)
    fun response => ?_
  dsimp only
  split
  · exact .done _
  · exact .done _

/-- The login request before it is signed. -/
def loginTo (url : Url) (insecure : Bool) : HttpRequest where
  method := .post
  url := url
  headers := addressHeaders url
  body := none
  insecure := insecure

/-- A login whose address cannot be read, or cannot be asked, fails without asking anything. -/
theorem login_unsent {address : String}
    (unsent : ∀ url, Url.parse? (withoutSlashes address ++ "/api/session") = some url →
      url.isRequestable = false) (user : String) (insecure : Bool) (timeout : Duration) :
    ∃ error, ∀ password,
      (login address user password insecure timeout).run = .done (.error error) := by
  cases reads : Url.parse? (withoutSlashes address ++ "/api/session") with
  | none =>
    refine ⟨.request "session login failed: builder error", fun password => ?_⟩
    have unwritten : loginRequest? (withoutSlashes address) user password insecure = none := by
      rw [loginRequest?, reads]
      rfl
    rw [login, unwritten]
    rfl
  | some url =>
    refine ⟨.request ("session login failed: " ++ (SendFailure.unrequestable url).message),
      fun password => ?_⟩
    have written : loginRequest? (withoutSlashes address) user password insecure =
        some ((loginTo url insecure).signed (credentials user password)) := by
      rw [loginRequest?, reads]
      rfl
    rw [login, written]
    change Except.mapError _ <$> (Http.exchangeWithin timeout _).run >>= _ = _
    have unrequestable :
        ((loginTo url insecure).signed (credentials user password)).url.isRequestable = false :=
      unsent url reads
    rw [Http.exchangeWithin_unrequestable timeout _ unrequestable]
    rfl

/-- Any other login asks one request, signed with the password, and goes on in the same way. -/
theorem login_run {address : String} {url : Url}
    (reads : Url.parse? (withoutSlashes address ++ "/api/session") = some url)
    (requestable : url.isRequestable = true) (user password : String) (insecure : Bool)
    (timeout : Duration) :
    (login address user password insecure timeout).run =
      .ask (I := Http) ((loginTo url insecure).signed (credentials user password)) fun reaction =>
        (tokenTold user timeout url reaction >>= fun token =>
          pure (⟨withoutSlashes address, token, insecure, timeout⟩ : Session)).run := by
  have written : loginRequest? (withoutSlashes address) user password insecure =
      some ((loginTo url insecure).signed (credentials user password)) := by
    rw [loginRequest?, reads]
    rfl
  rw [login, written]
  change Except.mapError _ <$> (Http.exchangeWithin timeout
    ((loginTo url insecure).signed (credentials user password))).run >>= _ = _
  have signedRequestable :
      ((loginTo url insecure).signed (credentials user password)).url.isRequestable = true :=
    requestable
  rw [Http.exchangeWithin_run timeout _ signedRequestable]
  refine congrArg (Plan.ask (I := Http) _) (funext fun reaction => ?_)
  rw [tokenTold, bind_assoc]
  refine bind_congr (m := Plan Http) fun result => ?_
  cases result with
  | error error => rfl
  | ok response =>
    simp only [ExceptT.bindCont]
    split <;> rfl

/-- **The password.** Whatever the password is, a login fails in the same way without asking anything,
or it asks the same request, signed with the password, and goes on in the same way. -/
theorem login_signed (address user : String) (insecure : Bool) (timeout : Duration) :
    (∃ error, ∀ password,
      (login address user password insecure timeout).run = .done (.error error)) ∨
    ∃ url, Url.parse? (withoutSlashes address ++ "/api/session") = some url ∧ ∀ password,
      (login address user password insecure timeout).run =
        .ask (I := Http) ((loginTo url insecure).signed (credentials user password)) fun reaction =>
          (tokenTold user timeout url reaction >>= fun token =>
            pure (⟨withoutSlashes address, token, insecure, timeout⟩ : Session)).run := by
  by_cases unsent : ∀ url, Url.parse? (withoutSlashes address ++ "/api/session") = some url →
      url.isRequestable = false
  · exact .inl (login_unsent unsent user insecure timeout)
  · obtain ⟨url, reads, requestable⟩ : ∃ url, Url.parse? (withoutSlashes address ++ "/api/session") =
        some url ∧ url.isRequestable = true := by
      simpa using unsent
    exact .inr ⟨url, reads, fun password =>
      login_run reads requestable user password insecure timeout⟩

end Vcenter

end NodeScaler
