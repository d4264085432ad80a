import NodeScaler.Proofs.Vcenter.Replica
import NodeScaler.Proofs.Vcenter.Resolving

/-!
# Tags of one name

A server may have several tags of one name, since names are unique only within a category. A lookup
takes the first of them that is listed, and never finds out that there are more. So the order in
which the server lists its tags decides whose objects are found, and which tag is attached. It does
not matter if the name belongs to one tag.
-/

namespace NodeScaler.Vcenter

open Plan (Concludes Settles)

variable {σ τ α : Type} {server : Handler Http σ} {good : σ → Prop} {session : Session}
  {name : String} {object : ObjectRef} {exchanges : List (Exchange Http)}

/-! ## Tags -/

/-- The tags of a server. -/
structure Catalogue where
  /-- The identifier and the name of a tag, by the identifier under which it is listed. -/
  entry : String → String × String
  /-- What the server says of the objects of a tag, by its identifier. -/
  objects : String → Except InventoryError (List ObjectRef)

namespace Catalogue

variable {catalogue : Catalogue} {order other : List String}

/-- The identifiers of the tags of a name, in the order in which the tags are listed. -/
def named (catalogue : Catalogue) (order : List String) (name : String) : List String :=
  ((order.map catalogue.entry).filter fun entry => entry.2 = name).map (·.1)

/-- What is said of the objects of a tag, as a set. -/
def members (catalogue : Catalogue) (id : String) : Except InventoryError RefSet :=
  (catalogue.objects id).map .ofList

/-- What is said of the objects of the first tag of a name; without such a tag there are none. -/
def firstObjects (catalogue : Catalogue) (order : List String) (name : String) :
    Except InventoryError RefSet :=
  match (catalogue.named order name).head? with
  | some id => catalogue.members id
  | none => .ok .empty

/-- What is said of the objects of all tags of a name. -/
def allObjects (catalogue : Catalogue) (order : List String) (name : String) :
    Except InventoryError RefSet :=
  ((catalogue.named order name).mapM catalogue.objects).map fun lists => .ofList lists.flatten

/-- A name belongs to one tag at most. -/
def Unambiguous (catalogue : Catalogue) (order : List String) (name : String) : Prop :=
  ∀ id ∈ catalogue.named order name, ∀ another ∈ catalogue.named order name, id = another

/-- Of all tags of a name the same is said. -/
def Alike (catalogue : Catalogue) (order : List String) (name : String) : Prop :=
  ∀ id ∈ catalogue.named order name, ∀ another ∈ catalogue.named order name,
    catalogue.members id = catalogue.members another

/-- Of one tag one thing is said. -/
theorem Unambiguous.alike (unambiguous : catalogue.Unambiguous order name) :
    catalogue.Alike order name := by
  intro id isNamed another isNamedToo
  rw [unambiguous id isNamed another isNamedToo]

/-- A tag of a name is listed. -/
theorem exists_of_mem_named {id : String} (isNamed : id ∈ catalogue.named order name) :
    ∃ listed ∈ order, catalogue.entry listed = (id, name) := by
  obtain ⟨entry, isEntry, rfl⟩ := List.mem_map.1 isNamed
  obtain ⟨isIn, isName⟩ := List.mem_filter.1 isEntry
  obtain ⟨listed, isListed, rfl⟩ := List.mem_map.1 isIn
  exact ⟨listed, isListed, Prod.ext rfl (of_decide_eq_true isName)⟩

/-- The tags of a name, if the first listed tag has it. -/
theorem named_cons_of_eq {listed : String} (isName : (catalogue.entry listed).2 = name) :
    catalogue.named (listed :: order) name =
      (catalogue.entry listed).1 :: catalogue.named order name := by
  rw [named, List.map_cons, List.filter_cons_of_pos (by simpa using isName)]
  rfl

/-- The tags of a name, if the first listed tag does not have it. -/
theorem named_cons_of_ne {listed : String} (isOther : (catalogue.entry listed).2 ≠ name) :
    catalogue.named (listed :: order) name = catalogue.named order name := by
  rw [named, List.map_cons, List.filter_cons_of_neg (by simpa using isOther)]
  rfl

/-! ### Orders -/

/-- In another order the same tags have a name. -/
theorem named_perm (catalogue : Catalogue) (perm : order.Perm other) (name : String) :
    (catalogue.named order name).Perm (catalogue.named other name) :=
  ((perm.map _).filter _).map _

/-- Each tag of a name is the first one in some order. -/
theorem exists_first {id : String} (isNamed : id ∈ catalogue.named order name) :
    ∃ other, order.Perm other ∧ (catalogue.named other name).head? = some id := by
  obtain ⟨listed, isListed, isEntry⟩ := exists_of_mem_named isNamed
  refine ⟨listed :: order.erase listed, List.perm_cons_erase isListed, ?_⟩
  rw [named_cons_of_eq (congrArg Prod.snd isEntry), isEntry]
  rfl

/-- In any order some tag of a name is the first one, unless there is none. -/
theorem heads_of_perm (catalogue : Catalogue) (perm : order.Perm other) (name : String) :
    ((catalogue.named order name).head? = none ∧ (catalogue.named other name).head? = none) ∨
      ∃ first ∈ catalogue.named order name, ∃ another ∈ catalogue.named order name,
        (catalogue.named order name).head? = some first ∧
          (catalogue.named other name).head? = some another := by
  have same := named_perm catalogue perm name
  cases isFirst : (catalogue.named order name).head? with
  | none =>
    rw [List.head?_eq_none_iff] at isFirst
    rw [isFirst] at same
    exact .inl ⟨rfl, List.head?_eq_none_iff.2 same.nil_eq.symm⟩
  | some first =>
    cases isOther : (catalogue.named other name).head? with
    | none =>
      rw [List.head?_eq_none_iff] at isOther
      rw [isOther] at same
      rw [same.eq_nil] at isFirst
      cases isFirst
    | some another =>
      have isNamed := same.mem_iff.2 (List.mem_of_head? isOther)
      exact .inr ⟨first, List.mem_of_head? isFirst, another, isNamed, rfl, rfl⟩

/-- A name belongs to one tag just if the first tag of the name is the same in all orders. -/
theorem unambiguous_iff : catalogue.Unambiguous order name ↔ ∀ other, order.Perm other →
    (catalogue.named other name).head? = (catalogue.named order name).head? := by
  constructor
  · intro unambiguous other perm
    rcases heads_of_perm catalogue perm name with ⟨isNone, isNoneToo⟩ |
      ⟨first, isNamed, another, isNamedToo, isFirst, isOther⟩
    · rw [isNone, isNoneToo]
    · rw [isFirst, isOther, unambiguous first isNamed another isNamedToo]
  · intro always id isNamed another isNamedToo
    obtain ⟨order, perm, isFirst⟩ := exists_first isNamed
    obtain ⟨other, permToo, isFirstToo⟩ := exists_first isNamedToo
    have same := (always _ perm).trans (always _ permToo).symm
    rw [isFirst, isFirstToo] at same
    exact Option.some.inj same

/-- The same is said of all tags of a name just if it is said of the first one in all orders. -/
theorem alike_iff : catalogue.Alike order name ↔ ∀ other, order.Perm other →
    catalogue.firstObjects other name = catalogue.firstObjects order name := by
  unfold firstObjects
  constructor
  · intro alike other perm
    rcases heads_of_perm catalogue perm name with ⟨isNone, isNoneToo⟩ |
      ⟨first, isNamed, another, isNamedToo, isFirst, isOther⟩
    · rw [isNone, isNoneToo]
    · rw [isFirst, isOther]
      exact alike another isNamedToo first isNamed
  · intro always id isNamed another isNamedToo
    obtain ⟨order, perm, isFirst⟩ := exists_first isNamed
    obtain ⟨other, permToo, isFirstToo⟩ := exists_first isNamedToo
    have same := (always _ perm).trans (always _ permToo).symm
    rw [isFirst, isFirstToo] at same
    exact same

/-! ### Sets of objects -/

/-- If a set is said of each tag, then it is said of all of them. -/
theorem mapM_objects {ids : List String} {set : RefSet}
    (alike : ∀ id ∈ ids, catalogue.members id = .ok set) :
    ∃ lists, ids.mapM catalogue.objects = .ok lists ∧ lists.length = ids.length ∧
      ∀ objects ∈ lists, RefSet.ofList objects = set := by
  induction ids with
  | nil => exact ⟨[], rfl, rfl, fun _ isIn => nomatch isIn⟩
  | cons first rest inductionHypothesis =>
    obtain ⟨lists, areSaid, sameLength, same⟩ :=
      inductionHypothesis fun id isIn => alike id (List.mem_cons_of_mem _ isIn)
    have isSet := alike first List.mem_cons_self
    rw [members] at isSet
    cases said : catalogue.objects first with
    | error error =>
      rw [said] at isSet
      cases isSet
    | ok found =>
      rw [said] at isSet
      refine ⟨found :: lists, ?_, congrArg (· + 1) sameLength, ?_⟩
      · rw [List.mapM_cons, said, areSaid]
        rfl
      · exact List.forall_mem_cons.2 ⟨Except.ok.inj isSet, same⟩

/-- If the same is said of all tags of a name, the objects of the first one are all of them. -/
theorem Alike.firstObjects_eq (alike : catalogue.Alike order name) :
    catalogue.firstObjects order name = catalogue.allObjects order name := by
  unfold Alike at alike
  unfold firstObjects allObjects
  cases isNamed : catalogue.named order name with
  | nil => rfl
  | cons first rest =>
    rw [isNamed] at alike
    dsimp only [List.head?_cons]
    cases said : catalogue.objects first with
    | error error =>
      rw [List.mapM_cons, members, said]
      rfl
    | ok found =>
      have isSet : catalogue.members first = .ok (.ofList found) := by
        rw [members, said]
        rfl
      have same (id : String) (isIn : id ∈ first :: rest) :
          catalogue.members id = .ok (.ofList found) := by
        rw [alike id isIn first List.mem_cons_self, isSet]
      obtain ⟨lists, areSaid, sameLength, areSet⟩ := mapM_objects same
      have whole : RefSet.ofList lists.flatten = .ofList found := by
        apply RefSet.eq_of_mem
        intro object
        rw [RefSet.mem_ofList, List.mem_flatten]
        constructor
        · rintro ⟨objects, isObjects, isIn⟩
          rw [← areSet objects isObjects, RefSet.mem_ofList]
          exact isIn
        · intro isIn
          obtain ⟨objects, isObjects⟩ : ∃ objects, objects ∈ lists :=
            List.exists_mem_of_length_pos (sameLength ▸ Nat.succ_pos _)
          rw [← areSet objects isObjects, RefSet.mem_ofList] at isIn
          exact ⟨objects, isObjects, isIn⟩
      rw [areSaid, isSet]
      exact congrArg Except.ok whole.symm

end Catalogue

/-! ## Servers -/

/-- In good surroundings the server responds to a request in time, the response is read as a result,
and the surroundings stay good. -/
def Session.Answered (session : Session) (server : Handler Http σ) (good : σ → Prop)
    (read : Json.Value → Option α) (request? : Option HttpRequest)
    (result : Except InventoryError α) : Prop :=
  ∃ request, request? = some request ∧ request.url.isRequestable = true ∧ ∀ state, good state →
    Answers server session.timeout request state (decoded read · = result) good

/-- The server has the tags of a catalogue, and lists them in an order. -/
structure Session.Shows (session : Session) (catalogue : Catalogue) (order : List String)
    (server : Handler Http σ) (good : σ → Prop) : Prop where
  /-- The tags are listed. -/
  lists : session.Answered server good (listOf? Json.Value.text?)
    (session.request? .get "/api/cis/tagging/tag" [] none) (.ok order)
  /-- Every listed tag is described. -/
  describes : ∀ listed ∈ order, session.Answered server good (named? "id")
    (session.request? .get ("/api/cis/tagging/tag/" ++ listed) [] none)
    (.ok (catalogue.entry listed))
  /-- The objects of every listed tag are asked for, and listed or refused. -/
  tells : ∀ listed ∈ order, session.Answered server good (listOf? ObjectRef.ofJson?)
    (session.request? .post (Session.associationPath (catalogue.entry listed).1)
      [("action", "list-attached-objects")] none)
    (catalogue.objects (catalogue.entry listed).1)

/-- A request that is answered so is read so. -/
theorem Session.Answered.fetch {read : Json.Value → Option α} {method : HttpMethod} {path : String}
    {fields : List (String × String)} {result : Except InventoryError α}
    (answered : session.Answered server good read (session.request? method path fields none)
      result) :
    (session.fetch read method path fields).run.Settles server good (· = result) := by
  obtain ⟨request, isRequest, requestable, answers⟩ := answered
  have sends := sends_send isRequest requestable
  exact fetch_settles sends (Nat.le_refl _) answers fun _ isRead => isRead

variable {catalogue : Catalogue} {order : List String}

/-- Of listed tags the first one of a name is found. -/
theorem Session.Shows.firstNamed (shows : session.Shows catalogue order server good) (name : String)
    {listed : List String} (areListed : ∀ id ∈ listed, id ∈ order) :
    (session.firstNamed name listed).run.Settles server good
      (· = .ok (catalogue.named listed name).head?) := by
  induction listed with
  | nil => exact .done rfl
  | cons first rest inductionHypothesis =>
    have described := (shows.describes first (areListed first List.mem_cons_self)).fetch
    rw [Session.firstNamed]
    apply Settles.attempt described
    dsimp only
    by_cases isName : (catalogue.entry first).2 = name
    · rw [if_pos isName, Catalogue.named_cons_of_eq isName]
      exact .done rfl
    · rw [if_neg isName, Catalogue.named_cons_of_ne isName]
      exact inductionHypothesis fun id isIn => areListed id (List.mem_cons_of_mem _ isIn)

/-- The first listed tag of a name is found. -/
theorem Session.Shows.tagId? (shows : session.Shows catalogue order server good) (name : String) :
    (session.tagId? name).run.Settles server good
      (· = .ok (catalogue.named order name).head?) := by
  have listed := shows.lists.fetch
  exact Settles.attempt listed (shows.firstNamed name fun _ isIn => isIn)

/-- The objects of the first listed tag of a name are found, or refused. -/
theorem Session.Shows.carriers (shows : session.Shows catalogue order server good) (name : String) :
    (session.carriers name).run.Settles server good
      (· = catalogue.firstObjects order name) := by
  refine Settles.attempt (shows.tagId? name) ?_
  unfold Catalogue.firstObjects
  cases isFirst : (catalogue.named order name).head? with
  | none => exact .done rfl
  | some id =>
    obtain ⟨listed, isListed, isEntry⟩ := Catalogue.exists_of_mem_named (List.mem_of_head? isFirst)
    have told := (shows.tells listed isListed).fetch
    simp only [isEntry] at told
    dsimp only [Catalogue.members]
    cases said : catalogue.objects id with
    | error error =>
      rw [said] at told
      apply Settles.bind told
      rintro result rfl
      exact .done rfl
    | ok found =>
      rw [said] at told
      apply Settles.attempt told
      exact .done rfl

/-- A plan that settles on a value in good surroundings has it there. -/
theorem value_of_settles {plan : Plan Http α} {value : α}
    (settles : plan.Settles server good (· = value)) {state : σ} (isGood : good state) :
    (plan.transcript server state).value = some value := by
  obtain ⟨found, hasValue, rfl, -⟩ := settles.run isGood
  rw [(Plan.transcript_eq_run server plan state).1]
  exact hasValue

/-! ## Attaching -/

/-- What is concluded from the response to a request that acts: any success will do. -/
def acknowledged (received : Except InventoryError HttpResponse) : Except InventoryError Unit :=
  received.bind fun response => (checked response).map fun _ => ()

/-- An object is to be attached to a tag that has been looked up. -/
inductive Session.AttachesTo (session : Session) (name : String) (object : ObjectRef) :
    Option String → List (Exchange Http) → Except InventoryError Unit → Prop where
  /-- There is no such tag, and nothing else is asked. -/
  | absent {looks : List (Exchange Http)} (reads : ∀ look ∈ looks, session.ReadsTag look.question) :
      AttachesTo session name object none looks (.error (.notFound ("tag " ++ name)))
  /-- The tag is asked to be attached, and nothing else. -/
  | present {id : String} {looks sent : List (Exchange Http)}
      {received : Except InventoryError HttpResponse}
      (reads : ∀ look ∈ looks, session.ReadsTag look.question)
      (receives : session.Receives (session.request? .post (Session.associationPath id)
        [("action", "attach")] (some (Session.attachment object))) sent received) :
      AttachesTo session name object (some id) (looks ++ sent) (acknowledged received)

/-- What is concluded from asking for a tag to be attached. -/
theorem attachment_concludes {id : String} {result : Except InventoryError Unit}
    (concludes : (do
      let response ← session.send .post (Session.associationPath id) [("action", "attach")]
        (some (Session.attachment object))
      let _ ← ExceptT.mk (pure (checked response)) :
        Attempt Http InventoryError Unit).run.Concludes exchanges result) :
    ∃ received, session.Receives (session.request? .post (Session.associationPath id)
        [("action", "attach")] (some (Session.attachment object))) exchanges received ∧
      result = acknowledged received := by
  rcases Plan.concludes_attempt.1 concludes with ⟨error, rfl, fails⟩ |
    ⟨response, sent, rest, rfl, answered, ends⟩
  · exact ⟨.error error, send_concludes.1 fails, rfl⟩
  · refine ⟨.ok response, ?_⟩
    rcases Plan.concludes_attempt.1 ends with ⟨error, rfl, refused⟩ |
      ⟨other, before, after, rfl, accepted, finishes⟩
    · obtain ⟨rfl, isRefused⟩ := Plan.concludes_done.1 refused
      rw [List.append_nil]
      exact ⟨send_concludes.1 answered, by rw [acknowledged, Except.bind, ← isRefused]; rfl⟩
    · obtain ⟨rfl, isAccepted⟩ := Plan.concludes_done.1 accepted
      obtain ⟨rfl, rfl⟩ := Plan.concludes_done.1 finishes
      rw [List.append_nil, List.append_nil]
      exact ⟨send_concludes.1 answered, by rw [acknowledged, Except.bind, ← isAccepted]; rfl⟩

/-- The first listed tag of a name is asked to be attached. -/
theorem Session.Shows.attach (shows : session.Shows catalogue order server good) (name : String)
    (object : ObjectRef) {state : σ} (isGood : good state) :
    let ending := (session.attach name object).run.transcript server state
    ∃ result, ending.value = some result ∧ session.AttachesTo name object
      (catalogue.named order name).head? ending.exchanges result := by
  intro ending
  have found := value_of_settles (shows.tagId? name) isGood
  obtain ⟨time, hears⟩ := Plan.hears_transcript server (session.tagId? name).run state
  have reads := (tagId?_asks session name).hears hears
  obtain ⟨exchanges, result, last, whole, -⟩ := (attach_asks session name object).ends server state
  have isValue : ending.value = some result := congrArg Transcript.value whole
  refine ⟨result, isValue, ?_⟩
  have parts : ending = _ := Plan.transcript_attempt _ found
  generalize (session.tagId? name).run.transcript server state = looks at reads parts
  cases isFirst : (catalogue.named order name).head? with
  | none =>
    rw [isFirst] at parts
    rw [parts] at isValue ⊢
    cases isValue
    dsimp only
    rw [ExceptT.run_throw, Plan.transcript_pure, List.append_nil]
    exact .absent reads
  | some id =>
    rw [isFirst] at parts
    rw [parts] at isValue ⊢
    have concludes := Plan.transcript_value_iff.1 isValue
    obtain ⟨received, receives, rfl⟩ := attachment_concludes concludes
    exact .present reads receives

/-- What lookups of a name find: objects are those of the first listed tag of the name, and this tag
is the one that is attached. -/
structure Session.FindsFirst (session : Session) (catalogue : Catalogue) (order : List String)
    (server : Handler Http σ) (state : σ) (name : String) (object : ObjectRef) : Prop where
  /-- The objects of the first listed tag of the name are found, or refused. -/
  finds : ((session.carriers name).run.transcript server state).value =
    some (catalogue.firstObjects order name)
  /-- The first listed tag of the name is asked to be attached. -/
  attaches : ∃ result, ((session.attach name object).run.transcript server state).value =
      some result ∧ session.AttachesTo name object (catalogue.named order name).head?
        ((session.attach name object).run.transcript server state).exchanges result

/-- Lookups of a name find the first listed tag of the name. -/
theorem Session.Shows.findsFirst (shows : session.Shows catalogue order server good) (state : σ)
    (isGood : good state) (name : String) (object : ObjectRef) :
    session.FindsFirst catalogue order server state name object :=
  ⟨value_of_settles (shows.carriers name) isGood, shows.attach name object isGood⟩

/-! ## Two tags of one name -/

/-- Two tags of one name, with a machine for each. -/
def pools : Catalogue where
  entry listed := (listed, "k8s-nodegroup-pool-a")
  objects id := .ok [.vm (if id = "urn:1" then "vm-1" else "vm-2")]

/-- The response of a server that has these tags and lists them in an order. -/
def poolResponse (order : List String) (request : HttpRequest) : HttpResponse :=
  match request.method, request.url.path with
  | .get, ["api", "cis", "tagging", "tag"] => saying (.array (order.map .ofText))
  | .get, ["api", "cis", "tagging", "tag", listed] => saying (described "id" (pools.entry listed))
  | .post, ["api", "cis", "tagging", "tag-association", id] =>
    match request.url.query, pools.objects id with
    | some "action=list-attached-objects", .ok objects =>
      saying (.array (objects.map ObjectRef.json))
    | _, _ => ⟨204, ""⟩
  | _, _ => ⟨404, ""⟩

/-- The server. It responds at once. -/
def poolServer (order : List String) : Handler Http Unit := fun request _ =>
  (.response .zero (poolResponse order request), ())

/-- A session on the server. -/
def poolSession : Session := ⟨"https://[::1]", "token", false, .seconds 30⟩

/-- The address of the server. -/
def poolHome : Url := ⟨.https, none, none, "[::1]", none, [], none, none⟩

/-- The session can talk to the server. -/
theorem poolSession_usable : poolSession.Usable poolHome := by
  have scheme : ("https".toList.all fun c => c ≠ ':' ∧ 0x20 < c.toNat) = true := by decide
  have authority : ("[::1]".toList.all fun c => Url.endsAuthority c = false ∧ 0x20 < c.toNat) =
      true := by decide
  have bare : Url.Bare "https://[::1]" { poolHome with path := [""] } :=
    ⟨⟨"https".toList, "[::1]".toList, by decide,
      fun c isIn => of_decide_eq_true (List.all_eq_true.1 scheme c isIn), by decide,
      fun c isIn => of_decide_eq_true (List.all_eq_true.1 authority c isIn)⟩, by decide +kernel⟩
  exact ⟨⟨"https://[::1]", "", by decide, bare, by decide⟩, by decide, by decide⟩

/-- The server answers a request below its address. -/
theorem poolServer_answered {order : List String} {method : HttpMethod} {path : String}
    {segments : List String} {fields : List (String × String)}
    {read : Json.Value → Option α} {value : α} (nonempty : segments ≠ [])
    (plain : ∀ segment ∈ segments, Url.IsId segment)
    (written : path.toList = Url.pathChars segments)
    (requestable : (poolHome.below segments fields).isRequestable = true)
    {response : HttpResponse}
    (responds : poolResponse order (poolSession.sent poolHome method segments fields none) =
      response) (conveys : Conveys read value response) :
    poolSession.Answered (poolServer order) (fun _ => True) read
      (poolSession.request? method path fields none) (.ok value) := by
  have isRequest := poolSession_usable.request? method nonempty plain written fields none
  refine ⟨_, isRequest, requestable, fun state _ => ?_⟩
  exact ⟨_, (), ⟨.zero, Nat.zero_le _, rfl⟩, responds ▸ conveys, trivial⟩

/-- The requests of the session about one of the two tags are plain and short. -/
theorem pool_requestable {id : String} (isPool : id = "urn:1" ∨ id = "urn:2") :
    Url.IsId id ∧ (poolHome.below (Site.tags ++ [id]) []).isRequestable = true ∧
      (poolHome.below (["api", "cis", "tagging", "tag-association"] ++ [id])
        [("action", "list-attached-objects")]).isRequestable = true := by
  rcases isPool with rfl | rfl
  · decide
  · decide

/-- The server shows the two tags in the order in which it lists them. -/
theorem poolServer_shows {order : List String}
    (listed : ∀ id ∈ order, id = "urn:1" ∨ id = "urn:2") :
    poolSession.Shows pools order (poolServer order) fun _ => True where
  lists := by
    have proper (id : String) : (Json.Value.ofText id).Proper := .string _
    have reads (id : String) : (Json.Value.ofText id).text? = some (id : String) := rfl
    have conveys := conveys_list proper reads order
    rw [List.map_id'] at conveys
    exact poolServer_answered (by decide) (by decide) Site.written_tags.1 (by decide) rfl conveys
  describes id isListed := by
    obtain ⟨isId, requestable, -⟩ := pool_requestable (listed id isListed)
    have plain := Site.plain_append Site.tags (by decide) isId
    have written := Site.written_append Site.written_tags.2.1 id
    have conveys : Conveys (named? "id") (pools.entry id)
        (saying (described "id" (pools.entry id))) :=
      conveys_saying (proper_described _ _) (named?_described (by decide) _)
    exact poolServer_answered (by simp) plain written requestable rfl conveys
  tells id isListed := by
    obtain ⟨isId, -, requestable⟩ := pool_requestable (listed id isListed)
    have plain := Site.plain_append ["api", "cis", "tagging", "tag-association"] (by decide) isId
    have written := Site.written_append Site.written_tags.2.2 id
    have conveys := conveys_list ObjectRef.proper_json ObjectRef.ofJson?_json
      [.vm (if id = "urn:1" then "vm-1" else "vm-2")]
    rw [List.map_id'] at conveys
    exact poolServer_answered (by simp) plain written requestable rfl conveys

/-- If two servers have the same tags and list them in different orders, each lookup of a name finds
the tag of the name that is listed first. If the name belongs to one tag, both attach it; otherwise
some order of the tags makes for another one. If the same is said of the objects of all tags of the
name, both find these objects, and they are all objects of tags of the name; otherwise some order
makes for other objects. -/
theorem lookups_follow_order {other : List String} {reordered : Handler Http τ} {fine : τ → Prop}
    (shows : session.Shows catalogue order server good)
    (reorders : session.Shows catalogue other reordered fine) (perm : order.Perm other)
    (state : σ) (isGood : good state) (later : τ) (isFine : fine later) (name : String)
    (object : ObjectRef) :
    session.FindsFirst catalogue order server state name object ∧
      session.FindsFirst catalogue other reordered later name object ∧
      (catalogue.Unambiguous order name →
        (catalogue.named other name).head? = (catalogue.named order name).head?) ∧
      (¬catalogue.Unambiguous order name → ∃ another, order.Perm another ∧
        (catalogue.named another name).head? ≠ (catalogue.named order name).head?) ∧
      (catalogue.Alike order name →
        catalogue.firstObjects other name = catalogue.allObjects order name ∧
          catalogue.firstObjects order name = catalogue.allObjects order name) ∧
      (¬catalogue.Alike order name → ∃ another, order.Perm another ∧
        catalogue.firstObjects another name ≠ catalogue.firstObjects order name) := by
  have finds := shows.findsFirst state isGood name object
  have findsToo := reorders.findsFirst later isFine name object
  refine ⟨finds, findsToo, ?_, ?_, ?_, ?_⟩
  · intro unambiguous
    exact Catalogue.unambiguous_iff.1 unambiguous other perm
  · intro ambiguous
    rw [Catalogue.unambiguous_iff] at ambiguous
    simpa using ambiguous
  · intro alike
    rw [Catalogue.alike_iff.1 alike other perm]
    exact ⟨alike.firstObjects_eq, alike.firstObjects_eq⟩
  · intro different
    rw [Catalogue.alike_iff] at different
    simpa using different

/-- Two servers list the two tags in different orders, and lookups find what is listed first. The
tags are not alike. -/
theorem pools_follow_order :
    poolSession.FindsFirst pools ["urn:1", "urn:2"] (poolServer ["urn:1", "urn:2"]) ()
        "k8s-nodegroup-pool-a" (.vm "vm-3") ∧
      poolSession.FindsFirst pools ["urn:2", "urn:1"] (poolServer ["urn:2", "urn:1"]) ()
        "k8s-nodegroup-pool-a" (.vm "vm-3") ∧
      ¬pools.Unambiguous ["urn:1", "urn:2"] "k8s-nodegroup-pool-a" ∧
      ¬pools.Alike ["urn:1", "urn:2"] "k8s-nodegroup-pool-a" := by
  have shows : poolSession.Shows pools ["urn:1", "urn:2"] _ _ := poolServer_shows (by decide)
  have reorders : poolSession.Shows pools ["urn:2", "urn:1"] _ _ := poolServer_shows (by decide)
  obtain ⟨finds, findsToo, oneTag, -, oneSet, -⟩ := lookups_follow_order shows reorders (by decide)
    () trivial () trivial "k8s-nodegroup-pool-a" (.vm "vm-3")
  refine ⟨finds, findsToo, ?_, ?_⟩
  · intro unambiguous
    have same := oneTag unambiguous
    revert same
    decide
  · intro alike
    have same := (oneSet alike).1.trans (oneSet alike).2.symm
    revert same
    decide

/-- The two servers have the same tags, but in one order the machine of the first tag is found, and
in the other order that of the second tag. Neither lookup finds both machines. A machine gets the
first tag in one order, and the second one in the other. -/
theorem pools_differ :
    let found (order : List String) := ((poolSession.carriers "k8s-nodegroup-pool-a").run.transcript
      (poolServer order) ()).value
    let attached (order : List String) := ((poolSession.attach "k8s-nodegroup-pool-a"
      (.vm "vm-3")).run.transcript (poolServer order) ()).exchanges.getLast?.map
        fun exchange => (exchange.question.url.path.getLast?, exchange.question.url.query)
    poolSession.Shows pools ["urn:1", "urn:2"] (poolServer ["urn:1", "urn:2"]) (fun _ => True) ∧
      poolSession.Shows pools ["urn:2", "urn:1"] (poolServer ["urn:2", "urn:1"]) (fun _ => True) ∧
      found ["urn:1", "urn:2"] = some (.ok (.ofList [.vm "vm-1"])) ∧
      found ["urn:2", "urn:1"] = some (.ok (.ofList [.vm "vm-2"])) ∧
      pools.allObjects ["urn:1", "urn:2"] "k8s-nodegroup-pool-a" =
        .ok (.ofList [.vm "vm-1", .vm "vm-2"]) ∧
      attached ["urn:1", "urn:2"] = some (some "urn:1", some "action=attach") ∧
      attached ["urn:2", "urn:1"] = some (some "urn:2", some "action=attach") := by
  have shows : poolSession.Shows pools ["urn:1", "urn:2"] _ _ := poolServer_shows (by decide)
  have reorders : poolSession.Shows pools ["urn:2", "urn:1"] _ _ := poolServer_shows (by decide)
  have finds := (shows.findsFirst () trivial "k8s-nodegroup-pool-a" (.vm "vm-3")).finds
  have findsToo := (reorders.findsFirst () trivial "k8s-nodegroup-pool-a" (.vm "vm-3")).finds
  refine ⟨shows, reorders, finds, findsToo, by decide, ?_⟩
  decide +kernel

end NodeScaler.Vcenter
