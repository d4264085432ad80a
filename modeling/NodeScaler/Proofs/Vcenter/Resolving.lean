import NodeScaler.Proofs.Http.Redirect
import NodeScaler.Proofs.Inventory.Reachable
import NodeScaler.Proofs.Vcenter.Asking
import NodeScaler.Proofs.Vcenter.Obtaining

/-!
# What is resolved

The objects of a tag are found by reading the list of tags, the tags of the list up to the first one of
the name, and the objects of that tag. The first of these requests that fails is the last one that is
made, and its failure is the result. So a tag is without objects only if the server says so: it lists
none, or all tags that it lists have other names.
-/

namespace NodeScaler.Vcenter

open Plan (Concludes)

variable {session : Session} {name : String} {exchanges : List (Exchange Http)}

/-! ## Requests -/

/-- What comes of the request for the list of tags. -/
def Session.ListsTags (session : Session) :
    List (Exchange Http) → Except InventoryError (List String) → Prop :=
  session.Obtains (listOf? Json.Value.text?) (session.request? .get "/api/cis/tagging/tag" [] none)

/-- What comes of the request for a tag: its identifier and its name. -/
def Session.ReadsTagOf (session : Session) (listed : String) :
    List (Exchange Http) → Except InventoryError (String × String) → Prop :=
  session.Obtains (named? "id") (session.request? .get ("/api/cis/tagging/tag/" ++ listed) [] none)

/-- What comes of the request for the objects of a tag. -/
def Session.ListsObjects (session : Session) (id : String) :
    List (Exchange Http) → Except InventoryError (List ObjectRef) → Prop :=
  session.Obtains (listOf? ObjectRef.ofJson?)
    (session.request? .post (Session.associationPath id) [("action", "list-attached-objects")] none)

/-! ## Several requests -/

/-- Listed tags are read one after the other, up to the first one of a name or the first failure. -/
inductive Session.Scans (session : Session) (name : String) :
    List String → List (Exchange Http) → Except InventoryError (Option String) → Prop where
  /-- None is left. -/
  | absent : Scans session name [] [] (.ok none)
  /-- The first one cannot be read. -/
  | failed {listed : String} {rest : List String} {exchanges : List (Exchange Http)}
      {error : InventoryError} (fails : session.ReadsTagOf listed exchanges (.error error)) :
      Scans session name (listed :: rest) exchanges (.error error)
  /-- The first one has the name. -/
  | present {listed id : String} {rest : List String} {exchanges : List (Exchange Http)}
      (reads : session.ReadsTagOf listed exchanges (.ok (id, name))) :
      Scans session name (listed :: rest) exchanges (.ok (some id))
  /-- The first one has another name. -/
  | other {listed id found : String} {rest : List String} {own exchanges : List (Exchange Http)}
      {result : Except InventoryError (Option String)}
      (reads : session.ReadsTagOf listed own (.ok (id, found))) (differs : found ≠ name)
      (others : Scans session name rest exchanges result) :
      Scans session name (listed :: rest) (own ++ exchanges) result

/-- The tag of a name is identified, or there is none, or a request fails. -/
inductive Session.Identifies (session : Session) (name : String) :
    List (Exchange Http) → Except InventoryError (Option String) → Prop where
  /-- The tags cannot be listed. -/
  | failed {exchanges : List (Exchange Http)} {error : InventoryError}
      (fails : session.ListsTags exchanges (.error error)) :
      Identifies session name exchanges (.error error)
  /-- The listed tags are read. -/
  | listed {own exchanges : List (Exchange Http)} {listed : List String}
      {result : Except InventoryError (Option String)} (lists : session.ListsTags own (.ok listed))
      (scans : session.Scans name listed exchanges result) :
      Identifies session name (own ++ exchanges) result

/-- The tag of a name is resolved to the objects that carry it, or a request fails. -/
inductive Session.Resolves (session : Session) (name : String) :
    List (Exchange Http) → Except InventoryError RefSet → Prop where
  /-- The tag cannot be identified. -/
  | failed {exchanges : List (Exchange Http)} {error : InventoryError}
      (fails : session.Identifies name exchanges (.error error)) :
      Resolves session name exchanges (.error error)
  /-- There is no such tag, and no object carries it. -/
  | absent {exchanges : List (Exchange Http)} {objects : RefSet}
      (none : session.Identifies name exchanges (.ok none)) (empty : ∀ object, object ∉ objects) :
      Resolves session name exchanges (.ok objects)
  /-- The objects of the tag cannot be listed. -/
  | unlisted {before after : List (Exchange Http)} {id : String} {error : InventoryError}
      (identifies : session.Identifies name before (.ok (some id)))
      (fails : session.ListsObjects id after (.error error)) :
      Resolves session name (before ++ after) (.error error)
  /-- Just the objects carry the tag that are listed, in whatever order and however often. -/
  | present {before after : List (Exchange Http)} {id : String} {listed : List ObjectRef}
      {objects : RefSet} (identifies : session.Identifies name before (.ok (some id)))
      (lists : session.ListsObjects id after (.ok listed))
      (same : ∀ object, object ∈ objects ↔ object ∈ listed) :
      Resolves session name (before ++ after) (.ok objects)

/-- What is concluded from reading listed tags. -/
theorem firstNamed_concludes {listed : List String}
    {result : Except InventoryError (Option String)} :
    (session.firstNamed name listed).run.Concludes exchanges result ↔
      session.Scans name listed exchanges result := by
  induction listed generalizing exchanges with
  | nil =>
    constructor
    · intro concludes
      obtain ⟨rfl, rfl⟩ := Plan.concludes_done.1 concludes
      exact .absent
    · intro scans
      cases scans
      exact Plan.concludes_done.2 ⟨rfl, rfl⟩
  | cons first rest inductionHypothesis =>
    unfold Session.firstNamed Session.tag
    rw [Plan.concludes_attempt]
    simp only [fetch_concludes]
    constructor
    · rintro (⟨error, rfl, fails⟩ | ⟨⟨id, found⟩, own, later, rfl, reads, others⟩)
      · exact .failed fails
      · by_cases isName : found = name
        · subst isName
          rw [if_pos rfl] at others
          obtain ⟨rfl, rfl⟩ := Plan.concludes_done.1 others
          rw [List.append_nil]
          exact .present reads
        · rw [if_neg isName, inductionHypothesis] at others
          exact .other reads isName others
    · intro scans
      cases scans with
      | failed fails => exact .inl ⟨_, rfl, fails⟩
      | present reads =>
        refine .inr ⟨_, _, [], (List.append_nil _).symm, reads, ?_⟩
        rw [if_pos rfl]
        exact Plan.concludes_done.2 ⟨rfl, rfl⟩
      | other reads differs others =>
        refine .inr ⟨_, _, _, rfl, reads, ?_⟩
        rw [if_neg differs, inductionHypothesis]
        exact others

/-- What is concluded from looking up the tag of a name. -/
theorem tagId?_concludes {result : Except InventoryError (Option String)} :
    (session.tagId? name).run.Concludes exchanges result ↔
      session.Identifies name exchanges result := by
  unfold Session.tagId?
  rw [Plan.concludes_attempt]
  simp only [fetch_concludes, firstNamed_concludes]
  constructor
  · rintro (⟨error, rfl, fails⟩ | ⟨listed, own, later, rfl, lists, scans⟩)
    · exact .failed fails
    · exact .listed lists scans
  · intro identifies
    cases identifies with
    | failed fails => exact .inl ⟨_, rfl, fails⟩
    | listed lists scans => exact .inr ⟨_, _, _, rfl, lists, scans⟩

/-- A set has just the objects of a list if it is the set of this list. -/
theorem eq_ofList_iff {objects : RefSet} {listed : List ObjectRef} :
    objects = .ofList listed ↔ ∀ object, object ∈ objects ↔ object ∈ listed := by
  constructor
  · rintro rfl object
    exact RefSet.mem_ofList
  · intro same
    apply RefSet.eq_of_mem
    intro object
    rw [same, RefSet.mem_ofList]

/-- What is concluded from looking up the objects of a tag. -/
theorem carriers_concludes {result : Except InventoryError RefSet} :
    (session.carriers name).run.Concludes exchanges result ↔
      session.Resolves name exchanges result := by
  unfold Session.carriers
  rw [Plan.concludes_attempt]
  simp only [tagId?_concludes]
  constructor
  · rintro (⟨error, rfl, fails⟩ | ⟨id?, before, after, rfl, identifies, rest⟩)
    · exact .failed fails
    · cases id? with
      | none =>
        obtain ⟨rfl, rfl⟩ := Plan.concludes_done.1 rest
        rw [List.append_nil]
        exact .absent identifies fun object isIn => nomatch isIn
      | some id =>
        rw [Plan.concludes_attempt] at rest
        simp only [fetch_concludes] at rest
        rcases rest with ⟨error, rfl, fails⟩ | ⟨listed, own, later, rfl, lists, ends⟩
        · exact .unlisted identifies fails
        · obtain ⟨rfl, rfl⟩ := Plan.concludes_done.1 ends
          rw [List.append_nil]
          exact .present identifies lists (eq_ofList_iff.1 rfl)
  · intro resolves
    cases resolves with
    | failed fails => exact .inl ⟨_, rfl, fails⟩
    | absent none empty =>
      refine .inr ⟨_, _, [], (List.append_nil _).symm, none, Plan.concludes_done.2 ⟨rfl, ?_⟩⟩
      congr 1
      apply RefSet.eq_of_mem
      intro object
      exact iff_of_false (empty object) fun isIn => nomatch isIn
    | unlisted identifies fails =>
      refine .inr ⟨_, _, _, rfl, identifies, ?_⟩
      exact Plan.concludes_attempt.2 (.inl ⟨_, rfl, fetch_concludes.2 fails⟩)
    | present identifies lists same =>
      refine .inr ⟨_, _, _, rfl, identifies, ?_⟩
      refine Plan.concludes_attempt.2 (.inr ⟨_, _, [], (List.append_nil _).symm,
        fetch_concludes.2 lists, Plan.concludes_done.2 ⟨rfl, ?_⟩⟩)
      rw [eq_ofList_iff.2 same]

/-- **A failure is never read as an empty tag.** Whatever the server replies and wherever redirects
lead, looking up the objects of a tag ends, and its result is what its exchanges resolve the tag to
(`Session.Resolves`): the objects that are listed for the first listed tag of the name, none if all
listed tags have other names, or the failure of the last exchange, which is the first one that fails.
What an exchange fails with is decided by the response that is handed on after redirects; on the wire
there is nothing but the courses of these exchanges. -/
theorem carriers_resolves {σ : Type} (redirects : Redirects) (server : Handler Wire σ)
    (session : Session) (name : String) (state : σ) :
    let ending := (session.carriers name).run.transcript (redirects.client server.recorded) (state, [])
    (∃ result, ending.value = some result) ∧
      (∀ result, ending.value = some result ↔ session.Resolves name ending.exchanges result) ∧
      redirects.Courses ending.exchanges ending.state.2 := by
  have courses := redirects.transcript_courses server (session.carriers name).run state
  dsimp only at courses ⊢
  refine ⟨?_, fun result => ?_, courses⟩
  · obtain ⟨exchanges, result, last, whole, -⟩ :=
      (carriers_asks session name).ends (redirects.client server.recorded) (state, [])
    exact ⟨result, congrArg Transcript.value whole⟩
  · rw [← carriers_concludes]
    exact Plan.transcript_value_iff

/-- A session with a server at home. -/
def homeSession : Session := ⟨"https://[::1]", "token", false, .seconds 30⟩

/-- A redirect in reply to the list of tags is no failure: the list at its location counts, and the tag
is without objects. -/
theorem moved_resolves :
    let client := (Redirects.standard Redirects.wholeAddress).client replying.recorded
    let moved := WireReply.moved 302 "https://[::1]/tags"
    let ending := (homeSession.carriers "k8s-cluster-prod").run.transcript client
      ([moved, .saying "[]"], [])
    ending.value = some (.ok .empty) ∧
      ending.state.2.map (fun exchange => ((exchange.question : HttpRequest).url.text,
        (exchange.answer : WireReply))) =
          [("https://[::1]/api/cis/tagging/tag", moved), ("https://[::1]/tags", .saying "[]")] := by
  decide +kernel

end NodeScaler.Vcenter
