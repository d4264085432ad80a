import NodeScaler.Proofs.Provider.Trying
import NodeScaler.Proofs.Vcenter.Hearing

/-!
# Making a machine through a session

A machine is made when its clone is asked for and told of in time, and each of its two tags is then
attached. What comes before these three requests only reads, so three changes are needed for a
machine and no attempt that fails gets as far as a third one that is accepted.
-/

namespace NodeScaler

/-- The time after which something comes of a request. -/
def Reaction.after : Reaction → Duration
  | .response after _ | .broken after | .lost after _ => after.waited
  | .silence => .zero

namespace Vcenter

open Plan (Hears Asks)

variable {α β ε ε' : Type} {session : Session} {limit time : Duration}
  {exchanges : List (Exchange Http)}

/-! ## The time of what succeeds -/

/-- The time that it takes until something has come of each request. -/
def spent : List (Exchange Http) → Nat
  | [] => 0
  | ⟨_, reaction⟩ :: later => (Reaction.after reaction).nanoseconds + spent later

/-- One exchange after another takes the time of both. -/
theorem spent_append (first second : List (Exchange Http)) :
    spent (first ++ second) = spent first + spent second := by
  induction first with
  | nil => exact (Nat.zero_add _).symm
  | cons exchange later inductionHypothesis =>
    rw [List.cons_append, spent, spent, inductionHypothesis, Nat.add_assoc]

/-- When the attempt succeeds, all the time that has passed is that of its requests. -/
def Timely (attempt : Attempt Http ε α) : Prop :=
  ∀ exchanges time value, attempt.run.Hears exchanges time (some (.ok value)) →
    time.nanoseconds = spent exchanges

/-- What is there at once takes no time. -/
theorem timely_done (result : Except ε α) : Timely (.mk (.done result)) := by
  intro exchanges time value hears
  obtain ⟨rfl, rfl, -⟩ := Hears.of_done hears
  rfl

/-- One attempt after another takes the time of both. -/
theorem Timely.attempt {attempt : Attempt Http ε α} {next : α → Attempt Http ε β}
    (first : Timely attempt) (second : ∀ value, Timely (next value)) : Timely (attempt >>= next) := by
  intro exchanges time value hears
  obtain ⟨middle, before, between, after, late, one, other, rfl, rfl⟩ := hears.of_attempt_ok
  rw [spent_append, ← first _ _ _ one, ← second middle _ _ _ other]
  rfl

/-- Seeing failures as failures of another kind takes no time. -/
theorem Timely.mapError {attempt : Attempt Http ε α} (timely : Timely attempt) (change : ε → ε') :
    Timely (attempt.mapError change) := by
  intro exchanges time value hears
  obtain ⟨found, alone, same⟩ := hears.of_map
  rcases found with - | error | other
  · cases same
  · cases same
  · exact timely _ _ _ alone

/-- What succeeds within a span of time succeeds without it, and takes no longer. -/
theorem hears_within {attempt : Attempt Http ε α} {late : ε} {value : α}
    (hears : (attempt.within limit late).run.Hears exchanges time (some (.ok value))) :
    attempt.run.Hears exchanges time (some (.ok value)) ∧
      time.nanoseconds ≤ limit.alarm.nanoseconds := by
  obtain ⟨found, within, same⟩ := hears.of_map
  rcases within.of_within with ⟨result, rfl, alone, inTime⟩ | ⟨rfl | rfl, -⟩
  · cases same
    exact ⟨alone, inTime⟩
  · cases same
  · cases same

/-- A deadline takes no time by itself. -/
theorem Timely.within {attempt : Attempt Http ε α} (timely : Timely attempt) (limit : Duration)
    (late : ε) : Timely (attempt.within limit late) :=
  fun _ _ _ hears => timely _ _ _ (hears_within hears).1

/-- A value after a pause is there when the pause is over. -/
theorem hears_paused {after : Duration} {found : α} {value : Option α}
    (hears : (Plan.pause after >>= fun _ => .done found : Plan Http α).Hears exchanges time value) :
    exchanges = [] ∧ (value = none ∨
      value = some found ∧ time.nanoseconds = after.waited.nanoseconds) := by
  unfold Plan.pause at hears
  split at hears
  · next atOnce =>
    obtain ⟨rfl, rfl, isValue⟩ := Hears.of_done hears
    exact ⟨rfl, isValue.imp_right fun isFound => ⟨isFound, by
      simp [Duration.waited, Duration.zero, atOnce]⟩⟩
  · cases hears with
    | stop => exact ⟨rfl, .inl rfl⟩
    | wait later =>
      obtain ⟨rfl, rfl, isValue⟩ := Hears.of_done later
      exact ⟨rfl, isValue.imp_right fun isFound => ⟨isFound, rfl⟩⟩

/-- What is heard of a request: nothing, or what comes of it. A response is there after its time. -/
theorem hears_exchange {request : HttpRequest} {result : Option (Except SendFailure HttpResponse)}
    (hears : (Http.exchange request).run.Hears exchanges time result) :
    (exchanges = [] ∧ ∀ response, result ≠ some (.ok response)) ∨
      ∃ reaction : Reaction, exchanges = [⟨request, reaction⟩] ∧
        ∀ response, result = some (.ok response) → ∃ after, reaction = .response after response ∧
          time.nanoseconds = after.waited.nanoseconds := by
  cases requestable : request.url.isRequestable with
  | false =>
    rw [Http.exchange_unrequestable request requestable] at hears
    exact .inl (Hears.of_failed hears)
  | true =>
    rw [Http.exchange_run request requestable] at hears
    cases hears with
    | stop => exact .inl ⟨rfl, fun response same => by cases same⟩
    | @ask _ _ reaction _ _ _ later =>
      right
      refine ⟨reaction, ?_⟩
      cases reaction with
      | response after response =>
        have paused : (Plan.pause after >>= fun _ => .done (.ok response) :
            Plan Http (Except SendFailure HttpResponse)).Hears _ _ _ := later
        obtain ⟨rfl, rfl | ⟨rfl, isTime⟩⟩ := hears_paused paused
        · exact ⟨rfl, fun other same => by cases same⟩
        · refine ⟨rfl, fun other same => ?_⟩
          cases same
          exact ⟨after, rfl, isTime⟩
      | broken after =>
        have paused : (Plan.pause after >>= fun _ => .done (.error (.unanswered request.url)) :
            Plan Http (Except SendFailure HttpResponse)).Hears _ _ _ := later
        obtain ⟨rfl, rfl | ⟨rfl, -⟩⟩ := hears_paused paused
        · exact ⟨rfl, fun other same => by cases same⟩
        · exact ⟨rfl, fun other same => by cases same⟩
      | lost after failure =>
        have paused : (Plan.pause after >>= fun _ => .done (.error (.misled failure)) :
            Plan Http (Except SendFailure HttpResponse)).Hears _ _ _ := later
        obtain ⟨rfl, rfl | ⟨rfl, -⟩⟩ := hears_paused paused
        · exact ⟨rfl, fun other same => by cases same⟩
        · exact ⟨rfl, fun other same => by cases same⟩
      | silence =>
        cases later with
        | stop => exact ⟨rfl, fun other same => by cases same⟩

/-- A response takes the time after which it is there. -/
theorem timely_exchange (request : HttpRequest) : Timely (Http.exchange request) := by
  intro exchanges time response hears
  rcases hears_exchange hears with ⟨-, isNone⟩ | ⟨reaction, rfl, isResponse⟩
  · exact absurd rfl (isNone response)
  · obtain ⟨after, rfl, isTime⟩ := isResponse response rfl
    exact isTime

/-- A request of the session takes the time of its response. -/
theorem timely_fetch (session : Session) (read : Json.Value → Option α) (method : HttpMethod)
    (path : String) (fields : List (String × String)) :
    Timely (session.fetch read method path fields) := by
  refine Timely.attempt (Timely.mapError ?_ _) fun _ => timely_done _
  cases session.request? method path fields none with
  | none => exact timely_done _
  | some request => exact (timely_exchange request).within _ _

/-! ## Clones -/

/-- The request asks for a clone of a name. -/
def Session.Orders (session : Session) (name : String) (request : HttpRequest) : Prop :=
  ∃ source folder pool, session.request? .post "/api/vcenter/vm" [("action", "clone")]
    (some (cloneBody source name folder pool)) = some request

/-- The exchanges read. -/
def Session.Looks (session : Session) (exchanges : List (Exchange Http)) : Prop :=
  ∀ exchange ∈ exchanges, session.Reads exchange.question

/-- A clone is placed by reading, asked for, and told of by a success that says its identifier. -/
structure Session.Clones (session : Session) (name : String) (object : ObjectRef)
    (reads : List (Exchange Http)) (order : Exchange Http) : Prop where
  /-- What comes first reads. -/
  looks : session.Looks reads
  /-- The clone is asked for. -/
  ordered : session.Orders name order.question
  /-- It is told of. -/
  told : ∃ id after response, order.answer = Reaction.response after response ∧
    Conveys Json.Value.text? id response ∧ object = .vm id

/-- What has been heard of a clone: nothing but lookups, or the request for it in the end, and then it
is there if it has been told of. -/
inductive Session.ToldOfClone (session : Session) (name : String) :
    List (Exchange Http) → Option (Except InventoryError ObjectRef) → Prop where
  /-- It has not been asked for. -/
  | unordered {exchanges : List (Exchange Http)} {result : Option (Except InventoryError ObjectRef)}
      (looks : session.Looks exchanges) (isNone : ∀ object, result ≠ some (.ok object)) :
      ToldOfClone session name exchanges result
  /-- It has been asked for. -/
  | ordered {looks : List (Exchange Http)} {order : Exchange Http}
      {result : Option (Except InventoryError ObjectRef)} (isLooks : session.Looks looks)
      (isOrder : session.Orders name order.question)
      (told : ∀ object, result = some (.ok object) → session.Clones name object looks order) :
      ToldOfClone session name (looks ++ [order]) result

/-- Lookups may come before. -/
theorem Session.ToldOfClone.after {name : String} {before exchanges : List (Exchange Http)}
    {result : Option (Except InventoryError ObjectRef)}
    (told : session.ToldOfClone name exchanges result) (looks : session.Looks before) :
    session.ToldOfClone name (before ++ exchanges) result := by
  cases told with
  | unordered isLooks isNone => exact .unordered (List.forall_mem_append.2 ⟨looks, isLooks⟩) isNone
  | ordered isLooks isOrder told =>
    rw [← List.append_assoc]
    exact .ordered (List.forall_mem_append.2 ⟨looks, isLooks⟩) isOrder fun object isOk =>
      ⟨List.forall_mem_append.2 ⟨looks, (told object isOk).looks⟩, isOrder, (told object isOk).told⟩

/-- A clone that is placed by one more lookup. -/
theorem toldOfClone_find {kind idField path name key : String} {fields : List (String × String)}
    {next : String → Attempt Http InventoryError ObjectRef}
    {result : Option (Except InventoryError ObjectRef)} (isApi : IsApi path)
    (hears : (session.find kind idField path key fields >>= next).run.Hears exchanges time result)
    (later : ∀ {id exchanges time}, (next id).run.Hears exchanges time result →
      session.ToldOfClone name exchanges result) : session.ToldOfClone name exchanges result := by
  have asks := find_asks session kind idField key isApi fields
  rcases hears.of_attempt with ⟨rfl, dropped⟩ | ⟨error, rfl, failed⟩ |
    ⟨id, before, between, after, late, found, rest, rfl, -⟩
  · exact .unordered (asks.hears dropped) fun object same => by cases same
  · exact .unordered (asks.hears failed) fun object same => by cases same
  · exact (later rest).after (asks.hears found)

/-- The same of a request that may not be writable, whose failures are seen as others. -/
theorem hears_attempt {request? : Option HttpRequest} {change : SendFailure → InventoryError}
    {result : Option (Except InventoryError HttpResponse)}
    (hears : ((attempt Http.exchange request?).mapError change).run.Hears exchanges time result) :
    (exchanges = [] ∧ ∀ response, result ≠ some (.ok response)) ∨
      ∃ (request : HttpRequest) (reaction : Reaction), request? = some request ∧
        exchanges = [⟨request, reaction⟩] ∧ ∀ response, result = some (.ok response) →
          ∃ after, reaction = .response after response := by
  obtain ⟨found, alone, rfl⟩ := hears.of_map
  have isOk {response : HttpResponse} (same : found.map (Except.mapError change) =
      some (.ok response)) : found = some (.ok response) := by
    rcases found with - | error | other <;> cases same
    rfl
  cases request? with
  | none =>
    obtain ⟨rfl, isNone⟩ := Hears.of_failed alone
    exact .inl ⟨rfl, fun response same => isNone response (isOk same)⟩
  | some request =>
    rcases hears_exchange alone with ⟨rfl, isNone⟩ | ⟨reaction, rfl, isResponse⟩
    · exact .inl ⟨rfl, fun response same => isNone response (isOk same)⟩
    · refine .inr ⟨request, reaction, rfl, rfl, fun response same => ?_⟩
      obtain ⟨after, isReaction, -⟩ := isResponse response (isOk same)
      exact ⟨after, isReaction⟩

/-- What is heard of a clone once it is placed. -/
theorem toldOfClone_order {name source folder pool : String}
    {result : Option (Except InventoryError ObjectRef)}
    (hears : (do
      let response ← (attempt Http.exchange (session.request? .post "/api/vcenter/vm"
        [("action", "clone")] (some (Session.cloneBody source name folder pool)))).mapError
          fun failure => .request failure.message
      return .vm (← ExceptT.mk (pure (decoded Json.Value.text? response))) :
        Attempt Http InventoryError ObjectRef).run.Hears exchanges time result) :
    session.ToldOfClone name exchanges result := by
  have ordered {order : Exchange Http} {result : Option (Except InventoryError ObjectRef)}
      (isOrder : session.request? .post "/api/vcenter/vm" [("action", "clone")]
        (some (Session.cloneBody source name folder pool)) = some order.question)
      (told : ∀ object, result = some (.ok object) → ∃ id after response,
        order.answer = Reaction.response after response ∧ Conveys Json.Value.text? id response ∧
          object = .vm id) : session.ToldOfClone name [order] result :=
    @Session.ToldOfClone.ordered session name [] order result (List.forall_mem_nil _)
      ⟨_, _, _, isOrder⟩ fun object isOk =>
        ⟨List.forall_mem_nil _, ⟨_, _, _, isOrder⟩, told object isOk⟩
  rcases hears.of_attempt with ⟨rfl, dropped⟩ | ⟨error, rfl, failed⟩ |
    ⟨response, before, between, after, late, answered, rest, rfl, -⟩
  · rcases hears_attempt dropped with ⟨rfl, -⟩ | ⟨order, reaction, isOrder, rfl, -⟩
    · exact .unordered (List.forall_mem_nil _) fun object same => by cases same
    · exact ordered isOrder fun object same => by cases same
  · rcases hears_attempt failed with ⟨rfl, -⟩ | ⟨order, reaction, isOrder, rfl, -⟩
    · exact .unordered (List.forall_mem_nil _) fun object same => by cases same
    · exact ordered isOrder fun object same => by cases same
  · rcases hears_attempt answered with ⟨-, isNone⟩ | ⟨order, reaction, isOrder, rfl, isResponse⟩
    · exact absurd rfl (isNone response)
    · obtain ⟨span, rfl⟩ := isResponse response rfl
      rcases rest.of_attempt with ⟨rfl, dropped⟩ | ⟨error, rfl, failed⟩ |
        ⟨id, before, between, after, late, read, finished, rfl, -⟩
      · obtain ⟨rfl, -⟩ := Hears.of_done dropped
        exact ordered isOrder fun object same => by cases same
      · obtain ⟨rfl, -⟩ := Hears.of_done failed
        exact ordered isOrder fun object same => by cases same
      · obtain ⟨rfl, -, same | isId⟩ := Hears.of_done read
        · cases same
        · obtain ⟨rfl, -, isObject⟩ := Hears.of_done finished
          refine ordered isOrder fun object same => ?_
          rcases isObject with rfl | rfl <;> cases same
          exact ⟨id, span, response, rfl, (Option.some.inj isId).symm, rfl⟩

/-- What is heard of a clone. -/
theorem hears_clone {request : CloneRequest} {result : Option (Except InventoryError ObjectRef)}
    (hears : (session.clone request).run.Hears exchanges time result) :
    session.ToldOfClone request.name exchanges result :=
  toldOfClone_find (by decide) hears fun placed => toldOfClone_find (by decide) placed fun pooled =>
    toldOfClone_find (by decide) pooled fun filed => toldOfClone_find (by decide) filed
      toldOfClone_order

/-- A clone takes the time of its lookups and of its own request. -/
theorem timely_clone (session : Session) (request : CloneRequest) : Timely (session.clone request) := by
  have found (kind idField path name : String) (fields : List (String × String)) :
      Timely (session.find kind idField path name fields) :=
    (timely_fetch session _ _ _ _).attempt fun _ => timely_done _
  refine (found _ _ _ _ _).attempt fun datacenter => ?_
  refine (found _ _ _ _ _).attempt fun pool => ?_
  refine (found _ _ _ _ _).attempt fun folder => ?_
  refine (found _ _ _ _ _).attempt fun source => ?_
  refine Timely.attempt (Timely.mapError ?_ _) fun response => ?_
  · cases session.request? .post "/api/vcenter/vm" [("action", "clone")]
        (some (Session.cloneBody source request.name folder pool)) with
    | none => exact timely_done _
    | some order => exact timely_exchange order
  · exact Timely.attempt (timely_done _) fun _ => timely_done _

/-- What is heard of a clone with a deadline: if it is there, then all its requests together have taken
no longer. -/
theorem hears_cloneWithin {request : CloneRequest} {late : InventoryError}
    {result : Option (Except InventoryError ObjectRef)}
    (hears : ((session.clone request).within limit late).run.Hears exchanges time result) :
    session.ToldOfClone request.name exchanges result ∧
      ∀ object, result = some (.ok object) → spent exchanges ≤ limit.alarm.nanoseconds := by
  constructor
  · obtain ⟨found, within, rfl⟩ := hears.of_map
    rcases within.of_within with ⟨result, rfl, alone, -⟩ | ⟨dropped, begun, alone⟩
    · exact hears_clone alone
    · have isNone : ∀ object,
          found.map (Option.getD · (.error late)) ≠ some (Except.ok object) := by
        rcases dropped with rfl | rfl <;> exact fun object same => by cases same
      cases hears_clone alone with
      | unordered looks => exact .unordered looks isNone
      | ordered looks isOrder told =>
        exact .ordered looks isOrder fun object same => absurd same (isNone object)
  · rintro object rfl
    obtain ⟨alone, inTime⟩ := hears_within hears
    rw [timely_clone session request _ _ _ alone] at inTime
    exact inTime

/-! ## Attachments -/

/-- The request was answered in time with a success. -/
def Session.Accepts (session : Session) (reaction : Reaction) : Prop :=
  ∃ response, InTime session.timeout reaction response ∧ checked response = .ok response

/-- A tag is attached to an object: it is found by its name, and the request to attach it is
accepted. -/
structure Session.Attaches (session : Session) (name : String) (object : ObjectRef)
    (reads : List (Exchange Http)) (order : Exchange Http) : Prop where
  /-- What comes first reads. -/
  looks : session.Looks reads
  /-- The tag of the name is found, and asked to be attached. -/
  ordered : ∃ id, session.Finds name reads (some id) ∧
    session.request? .post (Session.associationPath id) [("action", "attach")]
      (some (Session.attachment object)) = some order.question
  /-- This is accepted. -/
  accepted : session.Accepts order.answer

/-- What has been heard of an attachment: nothing but lookups, or the request for it in the end, and
then it is done just if this is accepted. -/
inductive Session.ToldOfTag (session : Session) (name : String) (object : ObjectRef) :
    List (Exchange Http) → Except InventoryError Unit → Prop where
  /-- It has not been asked for. -/
  | unordered {exchanges : List (Exchange Http)} {error : InventoryError}
      (looks : session.Looks exchanges) : ToldOfTag session name object exchanges (.error error)
  /-- It has been asked for, and this is not accepted. -/
  | rejected {looks : List (Exchange Http)} {order : Exchange Http} {error : InventoryError}
      (isLooks : session.Looks looks) (rejects : ¬session.Accepts order.answer) :
      ToldOfTag session name object (looks ++ [order]) (.error error)
  /-- It has been asked for, and this is accepted. -/
  | attached {looks : List (Exchange Http)} {order : Exchange Http}
      (attaches : session.Attaches name object looks order) :
      ToldOfTag session name object (looks ++ [order]) (.ok ())

/-- The response counts as a success by its status alone. -/
theorem checked_eq_ok {response other : HttpResponse} (isOk : checked response = .ok other) :
    other = response := by
  unfold checked at isOk
  dsimp only at isOk
  repeat' split at isOk
  all_goals cases isOk
  rfl

/-- What is heard once the tag has been found: it is asked to be attached. -/
theorem toldOfTag_order {name id : String} {object : ObjectRef} {looks : List (Exchange Http)}
    {result : Except InventoryError Unit} (isLooks : session.Looks looks)
    (finds : session.Finds name looks (some id))
    (hears : (do
      let response ← session.send .post (Session.associationPath id) [("action", "attach")]
        (some (Session.attachment object))
      let _ ← ExceptT.mk (pure (checked response)) :
        Attempt Http InventoryError Unit).run.Hears exchanges time (some result)) :
    session.ToldOfTag name object (looks ++ exchanges) result := by
  rcases hears.of_attempt_some with ⟨error, rfl, failed⟩ |
    ⟨response, sent, between, rest, late, answered, finished, rfl, -⟩
  · rcases hears_send failed with ⟨rfl, -⟩ | ⟨request, reaction, isRequest, rfl, isResponse⟩
    · rw [List.append_nil]
      exact .unordered isLooks
    · have noResponse := isResponse.resolve_left (by simp)
      refine .rejected isLooks fun accepts => ?_
      obtain ⟨response, inTime, -⟩ := accepts
      cases (noResponse response).2 inTime
  · rcases hears_send answered with ⟨-, isNone⟩ | ⟨request, reaction, isRequest, rfl, isResponse⟩
    · exact absurd rfl (isNone response)
    · have isInTime := isResponse.resolve_left (by simp)
      have inTime := (isInTime response).1 rfl
      cases isChecked : checked response with
      | error error =>
        rw [isChecked] at finished
        obtain ⟨rfl, -, rfl⟩ := Hears.of_done_some finished
        rw [List.append_nil]
        refine .rejected isLooks fun accepts => ?_
        obtain ⟨other, otherInTime, isOk⟩ := accepts
        cases (isInTime other).2 otherInTime
        rw [isChecked] at isOk
        cases isOk
      | ok other =>
        obtain rfl := checked_eq_ok isChecked
        rw [isChecked] at finished
        obtain ⟨rfl, -, rfl⟩ := Hears.of_done_some finished
        rw [List.append_nil]
        exact .attached ⟨isLooks, ⟨id, finds, isRequest⟩, other, inTime, isChecked⟩

/-- What is heard of an attachment. -/
theorem hears_attach {name : String} {object : ObjectRef} {result : Except InventoryError Unit}
    (hears : (session.attach name object).run.Hears exchanges time (some result)) :
    session.ToldOfTag name object exchanges result := by
  unfold Session.attach at hears
  have reads {exchanges : List (Exchange Http)} {time : Duration}
      {result : Option (Except InventoryError (Option String))}
      (hears : (session.tagId? name).run.Hears exchanges time result) : session.Looks exchanges :=
    fun look isLook => ((tagId?_asks session name).hears hears look isLook).reads
  rcases hears.of_attempt_some with ⟨error, rfl, failed⟩ |
    ⟨id?, looks, between, after, late, found, later, rfl, -⟩
  · exact .unordered (reads failed)
  · cases id? with
    | none =>
      obtain ⟨rfl, -, rfl⟩ := Hears.of_done_some later
      rw [List.append_nil]
      exact .unordered (reads found)
    | some id => exact toldOfTag_order (reads found) (hears_tagId? found) later

/-! ## Machines -/

/-- The number of requests that ask for something to be done. -/
def orders (exchanges : List (Exchange Http)) : Nat :=
  exchanges.countP fun exchange => (exchange.question : HttpRequest).method == .post

/-- What asks for something in a part, asks for it in the whole. -/
theorem orders_append (first second : List (Exchange Http)) :
    orders (first ++ second) = orders first + orders second := List.countP_append

/-- Lookups ask for nothing to be done. -/
theorem Session.Looks.orders_eq (looks : session.Looks exchanges) : orders exchanges = 0 := by
  refine List.countP_eq_zero.2 fun exchange isIn => ?_
  obtain ⟨path, fields, -, asked⟩ := looks exchange isIn
  obtain ⟨url, -, isRequest⟩ := Session.request?_eq_some asked
  simp [isRequest]

/-- Whatever is the last request, behind lookups it is the only one that asks for something. -/
theorem Session.Looks.orders_le (looks : session.Looks exchanges) (last : Exchange Http) :
    orders (exchanges ++ [last]) ≤ 1 := by
  rw [orders_append, looks.orders_eq, Nat.zero_add]
  exact List.countP_le_length

/-- Behind lookups one request of the session asks for something. -/
theorem Session.Looks.orders_post (looks : session.Looks exchanges) {last : Exchange Http}
    {path : String} {fields : List (String × String)} {body : Option Json.Value}
    (asked : session.request? .post path fields body = some last.question) :
    orders (exchanges ++ [last]) = 1 := by
  obtain ⟨url, -, isRequest⟩ := Session.request?_eq_some asked
  rw [orders_append, looks.orders_eq]
  simp [orders, isRequest]

/-- Up to a clone there is one order at most. -/
theorem Session.ToldOfClone.orders_le {name : String}
    {result : Option (Except InventoryError ObjectRef)}
    (told : session.ToldOfClone name exchanges result) : orders exchanges ≤ 1 := by
  cases told with
  | unordered looks => exact looks.orders_eq.le.trans (Nat.zero_le 1)
  | ordered looks => exact looks.orders_le _

/-- Up to an attachment that fails there is no order, or one that is not accepted. -/
theorem Session.ToldOfTag.of_error {name : String} {object : ObjectRef} {error : InventoryError}
    (told : session.ToldOfTag name object exchanges (.error error)) :
    orders exchanges = 0 ∨ orders exchanges ≤ 1 ∧ ∃ front last, exchanges = front ++ [last] ∧
      ¬session.Accepts last.answer := by
  cases told with
  | unordered looks => exact .inl looks.orders_eq
  | rejected looks rejects => exact .inr ⟨looks.orders_le _, _, _, rfl, rejects⟩

/-- An attachment that succeeds has been told. -/
theorem Session.ToldOfTag.of_ok {name : String} {object : ObjectRef}
    (told : session.ToldOfTag name object exchanges (.ok ())) :
    ∃ reads order, exchanges = reads ++ [order] ∧ session.Attaches name object reads order := by
  cases told with
  | attached attaches => exact ⟨_, _, rfl, attaches⟩

/-- A machine is complete: it is cloned before the timer for its deadline goes off, and both of its tags
are attached to the clone. -/
inductive Session.Completes (session : Session) (cloning : Cloning) (group name : String) :
    List (Exchange Http) → Prop where
  /-- A clone, and an attachment of each tag. -/
  | intro {object : ObjectRef} {reads before behind : List (Exchange Http)}
      {clone inCluster inGroup : Exchange Http} (cloned : session.Clones name object reads clone)
      (inTime : spent (reads ++ [clone]) ≤ cloning.cloneTimeout.alarm.nanoseconds)
      (ofCluster : session.Attaches (clusterTag cloning.cluster) object before inCluster)
      (ofGroup : session.Attaches (groupTag group) object behind inGroup) :
      Completes session cloning group name
        (reads ++ [clone] ++ (before ++ [inCluster] ++ (behind ++ [inGroup])))

/-- A complete machine has taken three requests, the last of which was accepted. -/
theorem Session.Completes.orders_eq {cloning : Cloning} {group name : String}
    (completes : session.Completes cloning group name exchanges) :
    orders exchanges = 3 ∧ ∃ front last, exchanges = front ++ [last] ∧
      session.Accepts last.answer := by
  obtain @⟨_, reads, before, behind, clone, inCluster, inGroup, cloned, -, ofCluster, ofGroup⟩ :=
    completes
  obtain ⟨source, folder, pool, ordered⟩ := cloned.ordered
  obtain ⟨first, -, orderedFirst⟩ := ofCluster.ordered
  obtain ⟨second, -, orderedSecond⟩ := ofGroup.ordered
  constructor
  · rw [orders_append (reads ++ [clone]), orders_append (before ++ [inCluster]),
      cloned.looks.orders_post ordered, ofCluster.looks.orders_post orderedFirst,
      ofGroup.looks.orders_post orderedSecond]
  · refine ⟨reads ++ [clone] ++ (before ++ [inCluster] ++ behind), inGroup, ?_, ofGroup.accepted⟩
    simp only [List.append_assoc]

/-- What is heard of two attachments: both tags are attached, or there is one order at most, or the last
one of two is not accepted. -/
theorem hears_tags {object : ObjectRef} {first second : String}
    {result : Except InventoryError Unit}
    (hears : (Cloning.tag session.client object [first, second]).run.Hears exchanges time
      (some result)) :
    (∃ before inCluster behind inGroup, result = .ok () ∧
        exchanges = before ++ [inCluster] ++ (behind ++ [inGroup]) ∧
        session.Attaches first object before inCluster ∧
        session.Attaches second object behind inGroup) ∨
      ∃ error, result = .error error ∧ (orders exchanges ≤ 1 ∨ ∃ front last,
        exchanges = front ++ [last] ∧ ¬session.Accepts last.answer) := by
  rcases hears.of_attempt_some with ⟨error, rfl, failed⟩ |
    ⟨_, told, between, rest, late, succeeded, later, rfl, -⟩
  · refine .inr ⟨error, rfl, .inl ?_⟩
    rcases (hears_attach failed).of_error with none | ⟨few, -⟩
    · omega
    · exact few
  · obtain ⟨before, inCluster, rfl, ofFirst⟩ := (hears_attach succeeded).of_ok
    rcases later.of_attempt_some with ⟨error, rfl, failed⟩ |
      ⟨_, told, between, rest, late, succeeded, finished, rfl, -⟩
    · refine .inr ⟨error, rfl, ?_⟩
      rcases (hears_attach failed).of_error with none | ⟨-, front, last, rfl, rejects⟩
      · rw [orders_append, none]
        exact .inl (ofFirst.looks.orders_le inCluster)
      · exact .inr ⟨before ++ [inCluster] ++ front, last, (List.append_assoc _ _ _).symm, rejects⟩
    · obtain ⟨behind, inGroup, rfl, ofSecond⟩ := (hears_attach succeeded).of_ok
      obtain ⟨rfl, -, rfl⟩ := Hears.of_done_some finished
      rw [List.append_nil]
      exact .inl ⟨before, inCluster, behind, inGroup, rfl, rfl, ofFirst, ofSecond⟩

/-- What is heard of making a machine: the trial leads to one with both tags just if it is complete. -/
theorem hears_make {cloning : Cloning} {group name : String} {result : Except InventoryError Unit}
    (hears : (cloning.make session.client group name).run.Hears exchanges time (some result)) :
    ∃ fate : Cloning.Fate, fate.result = result ∧
      (fate.isTagged = true ↔ session.Completes cloning group name exchanges) := by
  have fails {fate : Cloning.Fate} (untagged : fate.isTagged = false)
      (incomplete : ¬session.Completes cloning group name exchanges) :
      fate.isTagged = true ↔ session.Completes cloning group name exchanges := by
    constructor
    · intro isTagged
      rw [untagged] at isTagged
      cases isTagged
    · exact fun completes => absurd completes incomplete
  rcases hears.of_attempt_some with ⟨error, rfl, failed⟩ |
    ⟨object, own, between, rest, late, cloned, later, rfl, -⟩
  · refine ⟨.refused error, rfl, fails rfl fun completes => ?_⟩
    have few := (hears_cloneWithin failed).1.orders_le
    rw [completes.orders_eq.1] at few
    omega
  · obtain ⟨told, inTime⟩ := hears_cloneWithin cloned
    have few := told.orders_le
    rcases hears_tags later with ⟨before, inCluster, behind, inGroup, rfl, rfl, ofFirst, ofSecond⟩ |
      ⟨error, rfl, fewer | ⟨front, last, rfl, rejects⟩⟩
    · cases told with
      | unordered looks isNone => exact absurd rfl (isNone object)
      | ordered looks isOrder told =>
        have completes := Session.Completes.intro (told object rfl) (inTime object rfl) ofFirst ofSecond
        exact ⟨.tagged object, rfl, fun _ => completes, fun _ => rfl⟩
    · refine ⟨.stranded object error, rfl, fails rfl fun completes => ?_⟩
      have three := completes.orders_eq.1
      rw [orders_append] at three
      omega
    · refine ⟨.stranded object error, rfl, fails rfl fun completes => ?_⟩
      obtain ⟨-, other, final, isLast, accepts⟩ := completes.orders_eq
      rw [← List.append_assoc] at isLast
      obtain ⟨-, same⟩ := List.append_inj' isLast rfl
      cases same
      exact rejects accepts

/-- Making a machine comes to an end. -/
theorem make_ends {σ : Type} (session : Session) (cloning : Cloning) (group name : String)
    (server : Handler Http σ) (state : σ) :
    ∃ own, ∃ fate : Cloning.Fate, ∃ last, (cloning.make session.client group name).run.transcript server state =
      ⟨own, some fate.result, last⟩ ∧
      (fate.isTagged = true ↔ session.Completes cloning group name own) := by
  have asks := Cloning.make_asks (session_keeps session) cloning group name
  obtain ⟨own, result, last, whole, -⟩ := asks.ends server state
  obtain ⟨time, heard⟩ := Plan.hears_transcript server
    (cloning.make session.client group name).run state
  rw [whole] at heard
  obtain ⟨fate, rfl, isTagged⟩ := hears_make heard
  exact ⟨own, fate, last, whole, isTagged⟩

end Vcenter

end NodeScaler
