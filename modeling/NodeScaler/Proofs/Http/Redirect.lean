import NodeScaler.Http.Redirect
import NodeScaler.Proofs.Plan.Transcript

/-!
# Exchanges on the wire

An exchange of a client that follows redirects takes a course on the wire: its own request comes
first, each further request is the one to which the response before it leads, and the last reply
decides what comes of the exchange. Whatever a plan asks, nothing is sent but the courses of its
exchanges, one after the other.

The courses say nothing about time. Two exchanges side by side may share the wire between their
redirects; here the course of the one that begins first is complete before the other begins.
-/

namespace NodeScaler

/-! ## Records -/

/-- The handler with a record of its exchanges in its state. It answers as before. -/
def Handler.recorded {I : Interface} {σ : Type} (handler : Handler I σ) :
    Handler I (σ × List (Exchange I))
  | question, (state, record) =>
    let (answer, state) := handler question state
    (answer, state, record ++ [⟨question, answer⟩])

/-- An answer is recorded behind the exchanges before. -/
theorem Handler.record_eq {I : Interface} {σ : Type} {handler : Handler I σ} {question : I.Question}
    {answer : I.Answer question} {state last : σ × List (Exchange I)}
    (reply : handler.recorded question state = (answer, last)) :
    last.2 = state.2 ++ [⟨question, answer⟩] := by
  cases reply
  rfl

namespace Redirects

variable {I J : Interface} {σ τ α : Type} {redirects : Redirects} {left : Nat}
  {request next : HttpRequest} {reaction : Reaction} {own wire : List (Exchange Wire)}
  {exchanges : List (Exchange Http)}

/-! ## Courses -/

/-- What is sent for a request when so many redirects are left, the replies, and what comes of it. -/
inductive Course (redirects : Redirects) :
    Nat → HttpRequest → List (Exchange Wire) → Reaction → Prop where
  /-- The connection breaks. -/
  | broken {left : Nat} {request : HttpRequest} {after : Duration} :
      Course redirects left request [⟨request, .broken after⟩] (.broken after)
  /-- There is no reply. -/
  | silence {left : Nat} {request : HttpRequest} :
      Course redirects left request [⟨request, .silence⟩] .silence
  /-- The response is handed on. -/
  | answered {left : Nat} {request : HttpRequest} {after : Duration} {response : HttpResponse}
      {location : Option String} (answers : redirects.step request response location = .answer) :
      Course redirects left request [⟨request, .response after response location⟩]
        (.response after response)
  /-- The response leads elsewhere, and no redirect is left. -/
  | exhausted {request : HttpRequest} {after : Duration} {response : HttpResponse}
      {location : Option String} (leads : redirects.step request response location ≠ .answer) :
      Course redirects 0 request [⟨request, .response after response location⟩]
        (.lost after (.tooMany request.url))
  /-- The response leads to a scheme that cannot be requested. -/
  | foreign {left : Nat} {request : HttpRequest} {after : Duration} {response : HttpResponse}
      {location : Option String} {address : String}
      (leads : redirects.step request response location = .foreign address) :
      Course redirects (left + 1) request [⟨request, .response after response location⟩]
        (.lost after (.foreign address))
  /-- The response leads to another request, and what comes of that decides. -/
  | followed {left : Nat} {request next : HttpRequest} {after : Duration} {response : HttpResponse}
      {location : Option String} {own : List (Exchange Wire)} {reaction : Reaction}
      (leads : redirects.step request response location = .request next)
      (course : Course redirects left next own reaction) :
      Course redirects (left + 1) request (⟨request, .response after response location⟩ :: own)
        (reaction.redirected after next.url)

/-- Pursuing a request takes a course, which is all that the record grows by. -/
theorem pursue_course (redirects : Redirects) (server : Handler Wire σ) (left : Nat)
    (request : HttpRequest) (state : σ × List (Exchange Wire)) :
    let ending := redirects.pursue server.recorded left request state
    ∃ own, ending.2.2 = state.2 ++ own ∧ redirects.Course left request own ending.1 := by
  intro ending
  unfold ending
  fun_induction redirects.pursue server.recorded left request state with
  | case1 left request state after last reply =>
    exact ⟨_, Handler.record_eq reply, .broken⟩
  | case2 left request state last reply =>
    exact ⟨_, Handler.record_eq reply, .silence⟩
  | case3 left request state after response location last reply answers =>
    exact ⟨_, Handler.record_eq reply, .answered answers⟩
  | case4 request state after response location last reply leads =>
    exact ⟨_, Handler.record_eq reply, .exhausted leads⟩
  | case5 left request state after response location last reply address leads isLeft =>
    obtain ⟨left, rfl⟩ := Nat.exists_eq_succ_of_ne_zero isLeft
    exact ⟨_, Handler.record_eq reply, .foreign leads⟩
  | case6 request state after response location middle reply next left leads reaction last goesOn
      inductionHypothesis =>
    obtain ⟨own, isRecord, course⟩ := inductionHypothesis
    rw [goesOn, Handler.record_eq reply] at isRecord
    rw [goesOn] at course
    exact ⟨_, isRecord.trans (List.append_assoc _ _ _), .followed leads course⟩

/-- The exchanges take their courses one after the other, and nothing else is sent. -/
inductive Courses (redirects : Redirects) : List (Exchange Http) → List (Exchange Wire) → Prop where
  /-- There is no exchange. -/
  | nil : Courses redirects [] []
  /-- One exchange takes its course, and the others follow. -/
  | cons {request : HttpRequest} {reaction : Reaction} {own wire : List (Exchange Wire)}
      {exchanges : List (Exchange Http)}
      (course : redirects.Course redirects.most request own reaction)
      (others : Courses redirects exchanges wire) :
      Courses redirects (⟨request, reaction⟩ :: exchanges) (own ++ wire)

/-- The courses of some exchanges and then of others are those of all of them. -/
theorem Courses.append {others : List (Exchange Http)} {later : List (Exchange Wire)}
    (first : redirects.Courses exchanges wire) (second : redirects.Courses others later) :
    redirects.Courses (exchanges ++ others) (wire ++ later) := by
  induction first with
  | nil => exact second
  | cons course _ inductionHypothesis =>
    rw [List.append_assoc]
    exact .cons course inductionHypothesis

/-! ## What a plan sends -/

/-- Whatever the handler is asked, its record grows by the course of the exchange that this is, and
not at all if it is none. -/
def Records (redirects : Redirects) (handler : Handler I τ) (record : τ → List (Exchange Wire))
    (exchange? : Exchange I → Option (Exchange Http)) : Prop :=
  ∀ question state, ∃ own, record (handler question state).2 = record state ++ own ∧
    redirects.Courses (exchange? ⟨question, (handler question state).1⟩).toList own

/-- A client of a server with a record. -/
theorem records_client (redirects : Redirects) (server : Handler Wire σ) :
    redirects.Records (redirects.client server.recorded) Prod.snd some := by
  intro request state
  obtain ⟨own, isRecord, course⟩ := redirects.pursue_course server redirects.most request state
  refine ⟨own, isRecord, ?_⟩
  rw [← List.append_nil own]
  exact .cons course .nil

/-- What is asked of something else beside the handler is no exchange. -/
theorem Records.beside {handler : Handler J τ} {record : τ → List (Exchange Wire)}
    {exchange? : Exchange J → Option (Exchange Http)}
    (records : redirects.Records handler record exchange?) (other : Handler I σ) :
    redirects.Records (other.sum handler) (fun state => record state.2)
      (fun exchange => exchange.right?.bind exchange?) := by
  rintro (question | question) ⟨first, second⟩
  · exact ⟨[], (List.append_nil _).symm, .nil⟩
  · exact records question second

/-- A plan sends the courses of its exchanges. -/
theorem Records.transcript {handler : Handler I τ} {record : τ → List (Exchange Wire)}
    {exchange? : Exchange I → Option (Exchange Http)}
    (records : redirects.Records handler record exchange?) (plan : Plan I α) (state : τ) :
    let ending := plan.transcript handler state
    ∃ own, record ending.state = record state ++ own ∧
      redirects.Courses (ending.exchanges.filterMap exchange?) own := by
  induction plan generalizing state with
  | done value => exact ⟨[], (List.append_nil _).symm, .nil⟩
  | ask question next inductionHypothesis =>
    obtain ⟨own, isRecord, courses⟩ := records question state
    obtain ⟨later, isLater, others⟩ := inductionHypothesis (handler question state).1
      (handler question state).2
    refine ⟨own ++ later, ?_, ?_⟩
    · rw [← List.append_assoc, ← isRecord]
      exact isLater
    · have both := courses.append others
      cases seen : exchange? ⟨question, (handler question state).1⟩ with
      | none =>
        rw [seen] at both
        simpa [Plan.transcript, Transcript.cons, List.filterMap_cons_none seen] using both
      | some exchange =>
        rw [seen] at both
        simpa [Plan.transcript, Transcript.cons, List.filterMap_cons_some seen] using both
  | wait span next inductionHypothesis => exact inductionHypothesis state
  | stall => exact ⟨[], (List.append_nil _).symm, .nil⟩

/-- A plan of requests to a client sends the courses of these requests. -/
theorem transcript_courses (redirects : Redirects) (server : Handler Wire σ) (plan : Plan Http α)
    (state : σ) :
    let ending := plan.transcript (redirects.client server.recorded) (state, [])
    redirects.Courses ending.exchanges ending.state.2 := by
  intro ending
  obtain ⟨own, isRecord, courses⟩ := (redirects.records_client server).transcript plan (state, [])
  rw [List.filterMap_some] at courses
  rw [show ending.state.2 = own from isRecord]
  exact courses

end Redirects

/-! ## Servers for examples -/

/-- A server that gives some replies one after the other, and then nothing more. -/
def replying : Handler Wire (List WireReply)
  | _, [] => (.silence, [])
  | _, reply :: later => (reply, later)

/-- A reply at once, with a success and a body. -/
def WireReply.saying (body : String) : WireReply := .response .zero ⟨200, body⟩ none

/-- A reply at once that leads to another location. -/
def WireReply.moved (status : Nat) (location : String) : WireReply :=
  .response .zero ⟨status, ""⟩ (some location)

end NodeScaler
