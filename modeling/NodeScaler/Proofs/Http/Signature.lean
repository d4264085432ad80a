import NodeScaler.Proofs.Http.Redirect

/-!
# Signatures of requests

A request is signed by its `authorization` headers, each of which names a user. Two requests that
differ only in the values of these headers are one request veiled.

A client keeps signatures when its redirects neither look at these values nor add such a header. This
is what is relied on of the client library. The standard rule meets it: it decides by status, location
and address, copies headers or leaves out the signatures, and names where it comes from.
-/

namespace NodeScaler

/-! ## Signatures -/

/-- The headers of a request that name a user. -/
def HttpRequest.signatures (request : HttpRequest) : List (String × String) :=
  request.headers.filter (·.1 == "authorization")

/-- The request with a signature behind its other headers. -/
def HttpRequest.signed (value : String) (request : HttpRequest) : HttpRequest :=
  { request with headers := request.headers ++ [("authorization", value)] }

/-- A header without its value if it is a signature, and whole otherwise. -/
def veil (header : String × String) : String × String :=
  (header.1, if header.1 = "authorization" then "" else header.2)

/-- The request as far as it does not depend on the values of its signatures. -/
def HttpRequest.veiled (request : HttpRequest) : HttpRequest :=
  { request with headers := request.headers.map veil }

/-- What a request is signed with is veiled. -/
theorem HttpRequest.veiled_signed (request : HttpRequest) (value : String) :
    (request.signed value).veiled = request.veiled.signed "" := by
  simp [veiled, signed, veil]

/-- Requests that are the same veiled have the same address. -/
theorem HttpRequest.url_of_veiled {request other : HttpRequest}
    (alike : request.veiled = other.veiled) : request.url = other.url := by
  have same : request.veiled.url = other.veiled.url := congrArg HttpRequest.url alike
  exact same

namespace Redirects

variable {redirects : Redirects} {request other : HttpRequest} {hops : List HttpRequest}
  {related : HttpRequest → HttpRequest → Prop}

/-! ## Redirects that keep signatures -/

/-- Both steps hand the response on, or name the same address, or lead to requests that are related. -/
inductive Parallel (related : HttpRequest → HttpRequest → Prop) :
    RedirectStep → RedirectStep → Prop where
  /-- Both hand on. -/
  | answer : Parallel related .answer .answer
  /-- Both lead to a scheme that cannot be requested. -/
  | foreign (address : String) : Parallel related (.foreign address) (.foreign address)
  /-- Both lead to a request. -/
  | request {next twin : HttpRequest} (alike : related next twin) :
      Parallel related (.request next) (.request twin)

/-- One step hands on just if the other does. -/
theorem Parallel.answer_iff {step twin : RedirectStep} (parallel : Parallel related step twin) :
    step = .answer ↔ twin = .answer := by
  cases parallel with
  | answer => exact Iff.rfl
  | foreign | request => exact iff_of_false nofun nofun

/-- The address that one step names is named by the other. -/
theorem Parallel.of_foreign {address : String} {twin : RedirectStep}
    (parallel : Parallel related (.foreign address) twin) : twin = .foreign address := by
  cases parallel
  rfl

/-- Where one step leads to a request, the other leads to one that is related. -/
theorem Parallel.of_request {next : HttpRequest} {twin : RedirectStep}
    (parallel : Parallel related (.request next) twin) :
    ∃ other, twin = .request other ∧ related next other := by
  cases parallel with
  | request alike => exact ⟨_, rfl, alike⟩

/-- Every step is the same as itself. -/
theorem Parallel.same (step : RedirectStep) : Parallel Eq step step := by
  cases step with
  | answer => exact .answer
  | request next => exact .request rfl
  | foreign address => exact .foreign address

/-- What is relied on of a client library as to signatures. -/
structure KeepsSignatures (redirects : Redirects) : Prop where
  /-- Requests that are the same veiled are led to requests that are the same veiled. -/
  blind {request other : HttpRequest} (alike : request.veiled = other.veiled)
      (response : HttpResponse) (location : Option String) :
    Parallel (fun next twin => next.veiled = twin.veiled)
      (redirects.step request response location) (redirects.step other response location)
  /-- A request to which another is led has no signature that the other does not have. -/
  fewer {request next : HttpRequest} {response : HttpResponse} {location : Option String}
      (leads : redirects.step request response location = .request next) :
    next.signatures ⊆ request.signatures

/-- Each request is one to which a response to the one before can lead. -/
inductive Leads (redirects : Redirects) : HttpRequest → List HttpRequest → Prop where
  /-- No further request. -/
  | nil {request : HttpRequest} : Leads redirects request []
  /-- One request follows on, and others on it. -/
  | cons {request next : HttpRequest} {response : HttpResponse} {location : Option String}
      {hops : List HttpRequest}
      (leads : redirects.step request response location = .request next)
      (others : Leads redirects next hops) : Leads redirects request (next :: hops)

/-- Requests to which a request is led have no signatures but its own. -/
theorem Leads.signatures (led : redirects.Leads request hops) (keeps : redirects.KeepsSignatures) :
    ∀ hop ∈ hops, hop.signatures ⊆ request.signatures := by
  induction led with
  | nil => exact fun hop isIn => absurd isIn List.not_mem_nil
  | cons leads _ inductionHypothesis =>
    have own := keeps.fewer leads
    exact List.forall_mem_cons.2
      ⟨own, fun hop isIn => List.Subset.trans (inductionHypothesis hop isIn) own⟩

/-! ## The standard rule -/

/-- Leaving out the headers of a name and veiling the others commute. -/
theorem filter_veil (name : String) (headers : List (String × String)) :
    (headers.map veil).filter (·.1 != name) = (headers.filter (·.1 != name)).map veil :=
  List.filter_map

/-- The headers of a request at another location are veiled where they were. -/
theorem headersFor_veil (origin target : Url) (headers : List (String × String)) :
    headersFor origin target (headers.map veil) = (headersFor origin target headers).map veil := by
  have referer (text : String) : veil ("referer", text) = ("referer", text) := by simp [veil]
  unfold headersFor
  dsimp only
  split <;> split <;> simp [filter_veil, referer]

/-- A request at another location has the headers of the one before, and where it comes from. -/
theorem mem_headersFor {origin target : Url} {headers : List (String × String)}
    {header : String × String} (isIn : header ∈ headersFor origin target headers) :
    header ∈ headers ∨ header.1 = "referer" := by
  have kept : ∀ header ∈ (if sameHost origin target then headers
      else headers.filter (·.1 != "authorization")), header ∈ headers := by
    intro header isIn
    split at isIn
    · exact isIn
    · exact (List.mem_filter.1 isIn).1
  unfold headersFor at isIn
  dsimp only at isIn
  by_cases plain : origin.scheme = .https ∧ target.scheme = .http
  · rw [if_pos plain] at isIn
    exact .inl (kept header isIn)
  · rw [if_neg plain] at isIn
    rcases List.mem_append.1 isIn with isOld | isNew
    · exact .inl (kept header (List.mem_filter.1 isOld).1)
    · exact .inr (congrArg Prod.fst (List.mem_singleton.1 isNew))

/-- The standard rule keeps signatures, however locations are read. -/
theorem standard_keepsSignatures (read? : Url → String → Option Destination) :
    (standard read?).KeepsSignatures := by
  have veiled (request : HttpRequest) (status : Nat) (target : Url) :
      (followUp request status target).veiled = followUp request.veiled status target := by
    simp [followUp, HttpRequest.veiled, headersFor_veil]
  constructor
  case blind =>
    intro request other alike response location
    have sameUrl := HttpRequest.url_of_veiled alike
    unfold standard
    dsimp only
    rw [sameUrl]
    split
    · split
      · next url _ =>
        split
        · exact .request (by rw [veiled, veiled, alike])
        · exact .answer
      · exact .foreign _
      · exact .answer
    · exact .answer
  case fewer =>
    intro request next response location leads header isIn
    obtain ⟨target, rfl⟩ : ∃ target, next = followUp request response.status target := by
      unfold standard at leads
      dsimp only at leads
      repeat' split at leads
      all_goals cases leads
      exact ⟨_, rfl⟩
    obtain ⟨isHeader, signs⟩ := List.mem_filter.1 isIn
    rcases mem_headersFor isHeader with isOld | isReferer
    · exact List.mem_filter.2 ⟨isOld, signs⟩
    · simp [isReferer] at signs

end Redirects

end NodeScaler
