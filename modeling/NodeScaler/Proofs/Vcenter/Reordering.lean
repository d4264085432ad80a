import NodeScaler.Proofs.Plan.Twins
import NodeScaler.Proofs.Vcenter.Homonyms
import NodeScaler.Proofs.Vcenter.Placing

/-!
# Clones do not depend on the order of candidates

Two servers that differ at most in the order in which they list things are told apart by no lookup that
asks for exactly one candidate. So a clone asks both of them the same, where it is placed and what it is
called included, and comes to the same result.
-/

namespace NodeScaler.Vcenter

open Plan (Twins Echoes)

variable {σ τ α : Type} {session : Session} {server : Handler Http σ} {other : Handler Http τ}
  {agree : σ → τ → Prop} {response reordered : HttpResponse} {reaction another : Reaction}

/-! ## Servers that list in another order -/

/-- The response is the same, or a success that lists the same in another order. -/
inductive Restates (response : HttpResponse) : HttpResponse → Prop where
  /-- It is the same. -/
  | same : Restates response response
  /-- It lists the same in another order. -/
  | reordered {other : HttpResponse} {listed permuted : List Json.Value} (success : IsSuccess response)
      (status : other.status = response.status)
      (reads : Json.Value.read? response.body.toList = some (.array listed))
      (readsToo : Json.Value.read? other.body.toList = some (.array permuted))
      (perm : listed.Perm permuted) : Restates response other

/-- The reaction is the same, but for the order of a list. -/
inductive ReactsAlike : Reaction → Reaction → Prop where
  /-- It is the same. -/
  | same (reaction : Reaction) : ReactsAlike reaction reaction
  /-- There is a response at the same time. -/
  | response (after : Duration) {response reordered : HttpResponse}
      (restates : Restates response reordered) :
      ReactsAlike (.response after response) (.response after reordered)

/-- In states that agree the servers react alike to every request, and they leave states that agree. -/
def Reorders (server : Handler Http σ) (other : Handler Http τ) (agree : σ → τ → Prop) : Prop :=
  ∀ request state later, agree state later →
    ReactsAlike (server request state).1 (other request later).1 ∧
      agree (server request state).2 (other request later).2

/-! ## Responses -/

/-- If the values of a list can be read, so can they in another order, and the same is read but for its
order. -/
theorem exists_mapM_perm {read : Json.Value → Option α} {listed permuted : List Json.Value}
    {values : List α} (perm : listed.Perm permuted) (isRead : listed.mapM read = some values) :
    ∃ others, permuted.mapM read = some others ∧ values.Perm others := by
  induction perm generalizing values with
  | nil => exact ⟨values, isRead, .refl _⟩
  | cons first perm inductionHypothesis =>
    simp only [List.mapM_cons, bind, Option.bind_eq_some_iff, pure, Option.some.injEq] at isRead ⊢
    obtain ⟨value, isValue, rest, areRest, rfl⟩ := isRead
    obtain ⟨others, areOthers, permToo⟩ := inductionHypothesis areRest
    exact ⟨_, ⟨value, isValue, others, areOthers, rfl⟩, permToo.cons value⟩
  | swap first second rest =>
    simp only [List.mapM_cons, bind, Option.bind_eq_some_iff, pure, Option.some.injEq] at isRead ⊢
    obtain ⟨value, isValue, _, ⟨other, isOther, values, areValues, rfl⟩, rfl⟩ := isRead
    exact ⟨_, ⟨other, isOther, _, ⟨value, isValue, values, areValues, rfl⟩, rfl⟩, .swap _ _ _⟩
  | trans perm permToo inductionHypothesis inductionHypothesisToo =>
    obtain ⟨between, areBetween, permBetween⟩ := inductionHypothesis isRead
    obtain ⟨others, areOthers, permOthers⟩ := inductionHypothesisToo areBetween
    exact ⟨others, areOthers, permBetween.trans permOthers⟩

/-- Both responses list the same candidates, or are refused alike. -/
theorem Restates.lists (restates : Restates response reordered) (read : Json.Value → Option α) :
    Echoes List.Perm (decoded (listOf? read) response) (decoded (listOf? read) reordered) := by
  cases restates with
  | same => exact Plan.echoes_self List.Perm.refl _
  | @reordered _ listed permuted success status reads readsToo perm =>
    have successToo : IsSuccess reordered := by rwa [IsSuccess, status]
    have isList (elements : List Json.Value) :
        (some (Json.Value.array elements)).bind (listOf? read) = elements.mapM read := rfl
    rw [decoded_of_isSuccess _ success, decoded_of_isSuccess _ successToo, reads, readsToo, isList,
      isList]
    cases isRead : listed.mapM read with
    | some values =>
      obtain ⟨others, areOthers, permOthers⟩ := exists_mapM_perm perm isRead
      rw [areOthers]
      exact .ok permOthers
    | none =>
      cases isReadToo : permuted.mapM read with
      | some others =>
        obtain ⟨values, areValues, -⟩ := exists_mapM_perm perm.symm isReadToo
        cases isRead.symm.trans areValues
      | none => exact .error _

/-- Both responses say the same text, or are refused alike: a list is no text. -/
theorem Restates.text (restates : Restates response reordered) :
    Echoes (· = ·) (decoded Json.Value.text? response) (decoded Json.Value.text? reordered) := by
  cases restates with
  | same => exact Plan.echoes_self (fun _ => rfl) _
  | reordered success status reads readsToo =>
    have successToo : IsSuccess reordered := by rwa [IsSuccess, status]
    rw [decoded_of_isSuccess _ success, decoded_of_isSuccess _ successToo, reads, readsToo]
    exact .error _

/-- What comes of candidates does not depend on their order. -/
theorem Picks.perm {kind name : String} {candidates permuted : List (String × String)}
    {result : Except InventoryError String} (picks : Picks kind name candidates result)
    (perm : candidates.Perm permuted) : Picks kind name permuted result := by
  cases picks with
  | only isIn wanted alone =>
    exact .only (perm.mem_iff.1 isIn) wanted ((perm.countP_eq _).symm.trans alone)
  | absent none => exact .absent fun candidate isIn => none candidate (perm.mem_iff.2 isIn)
  | ambiguous isCount several => exact .ambiguous ((perm.countP_eq _).symm.trans isCount) several

/-! ## Requests -/

/-- An exchange with a deadline comes to the same if the host reacts alike. -/
theorem ReactsAlike.outcome (alike : ReactsAlike reaction another) (limit : Duration) (url : Url) :
    Echoes Restates (Http.outcome limit url reaction) (Http.outcome limit url another) := by
  cases alike with
  | same => exact Plan.echoes_self (fun _ => .same) _
  | response after restates =>
    unfold Http.outcome
    dsimp only
    split
    · exact .ok restates
    · exact .error _

/-- So does an exchange without a deadline. -/
theorem ReactsAlike.settle (alike : ReactsAlike reaction another) (url : Url) :
    (Http.settle url reaction).run.Twins server other agree (Echoes Restates)
      (Http.settle url another).run := by
  have waits (after : Duration) (result : Except SendFailure HttpResponse) :
      (Plan.pause after >>= fun _ => .done result).Awaits (I := Http) result :=
    (Plan.awaits_pause after).bind (.done result)
  cases alike with
  | same =>
    cases reaction with
    | response after response =>
      exact (waits after _).twins (waits after _) (.ok .same)
    | broken after => exact (waits after _).twins (waits after _) (.error _)
    | lost after failure => exact (waits after _).twins (waits after _) (.error _)
    | silence => exact Plan.twins_stall
  | response after restates => exact (waits after _).twins (waits after _) (.ok restates)

/-- An exchange with both servers comes to the same. -/
theorem Reorders.exchange (reorders : Reorders server other agree) (request : HttpRequest) :
    (Http.exchange request).run.Twins server other agree (Echoes Restates)
      (Http.exchange request).run := by
  cases requestable : request.url.isRequestable with
  | false =>
    rw [Http.exchange_unrequestable request requestable]
    exact Plan.twins_done (.error _)
  | true =>
    rw [Http.exchange_run request requestable]
    refine Plan.twins_ask fun state later agrees => ?_
    obtain ⟨alike, agreesAfter⟩ := reorders request state later agrees
    exact ⟨agreesAfter, alike.settle request.url⟩

/-- So does one with a deadline. -/
theorem Reorders.exchangeWithin (reorders : Reorders server other agree) (limit : Duration)
    (request : HttpRequest) :
    (Http.exchangeWithin limit request).run.Twins server other agree (Echoes Restates)
      (Http.exchangeWithin limit request).run := by
  cases requestable : request.url.isRequestable with
  | false =>
    rw [Http.exchangeWithin_unrequestable limit request requestable]
    exact Plan.twins_done (.error _)
  | true =>
    rw [Http.exchangeWithin_run limit request requestable]
    refine Plan.twins_ask fun state later agrees => ?_
    obtain ⟨alike, agreesAfter⟩ := reorders request state later agrees
    exact ⟨agreesAfter, (Http.settle_awaits _ _ _).twins (Http.settle_awaits _ _ _)
      (alike.outcome limit request.url)⟩

/-- So does one that is not made, because its request cannot be written. -/
theorem twins_attempt {send : HttpRequest → Attempt Http SendFailure HttpResponse}
    (twins : ∀ request, (send request).run.Twins server other agree (Echoes Restates)
      (send request).run) (request? : Option HttpRequest) :
    (attempt send request?).run.Twins server other agree (Echoes Restates)
      (attempt send request?).run := by
  cases request? with
  | none => exact Plan.twins_done (.error SendFailure.unwritable)
  | some request => exact twins request

/-- A request is received alike by both servers. -/
theorem Reorders.send (reorders : Reorders server other agree) (session : Session)
    (method : HttpMethod) (path : String) (fields : List (String × String)) (body : Option Json.Value) :
    (session.send method path fields body).run.Twins server other agree (Echoes Restates)
      (session.send method path fields body).run :=
  (twins_attempt (reorders.exchangeWithin session.timeout) _).mapError session.failure

/-- A lookup finds the same on both servers. -/
theorem Reorders.find (reorders : Reorders server other agree) (session : Session)
    (kind idField path name : String) (fields : List (String × String)) :
    (session.find kind idField path name fields).run.Twins server other agree (Echoes (· = ·))
      (session.find kind idField path name fields).run := by
  have fetches : (session.fetch (listOf? (named? idField)) .get path fields).run.Twins server other
      agree (Echoes List.Perm) (session.fetch (listOf? (named? idField)) .get path fields).run :=
    (reorders.send session .get path fields none).attempt fun _ _ restates =>
      Plan.twins_done (restates.lists _)
  refine fetches.attempt fun candidates permuted perm => Plan.twins_done ?_
  have same : pick kind name permuted = pick kind name candidates :=
    pick_eq_iff.2 ((pick_eq_iff.1 rfl).perm perm)
  rw [same]
  exact Plan.echoes_self (fun _ => rfl) _

/-- The lookups for a clone find the same on both servers. -/
theorem Reorders.locate (reorders : Reorders server other agree) (session : Session)
    (request : CloneRequest) :
    (session.locate request).run.Twins server other agree (Echoes (· = ·))
      (session.locate request).run := by
  refine (reorders.find _ _ _ _ _ _).attempt ?_
  rintro datacenter _ rfl
  refine (reorders.find _ _ _ _ _ _).attempt ?_
  rintro pool _ rfl
  refine (reorders.find _ _ _ _ _ _).attempt ?_
  rintro folder _ rfl
  refine (reorders.find _ _ _ _ _ _).attempt ?_
  rintro source _ rfl
  exact Plan.twins_done (.ok rfl)

/-- Both servers are asked for a clone alike, and tell the same. -/
theorem Reorders.order (reorders : Reorders server other agree) (session : Session) (name : String)
    (placement : Placement) :
    (session.order name placement).run.Twins server other agree (Echoes (· = ·))
      (session.order name placement).run := by
  have exchanges : (attempt Http.exchange (session.orderRequest? name placement)).run.Twins server other
      agree (Echoes Restates) (attempt Http.exchange (session.orderRequest? name placement)).run :=
    twins_attempt reorders.exchange _
  refine (exchanges.mapError _).attempt fun response reordered restates => ?_
  have tells : (ExceptT.mk (pure (decoded Json.Value.text? response)) :
      Attempt Http InventoryError String).run.Twins server other agree (Echoes (· = ·))
        (ExceptT.mk (pure (decoded Json.Value.text? reordered)) :
          Attempt Http InventoryError String).run := Plan.twins_done restates.text
  refine tells.attempt ?_
  rintro id _ rfl
  exact Plan.twins_done (.ok rfl)

/-- **The order of candidates plays no part.** A clone asks both servers the same and comes to the same
result. -/
theorem Reorders.clone (reorders : Reorders server other agree) (session : Session)
    (request : CloneRequest) :
    (session.clone request).run.Twins server other agree (Echoes (· = ·))
      (session.clone request).run := by
  rw [clone_eq]
  refine (reorders.locate session request).attempt ?_
  rintro placement _ rfl
  exact reorders.order session request.name placement

/-! ## Clones -/

end NodeScaler.Vcenter
