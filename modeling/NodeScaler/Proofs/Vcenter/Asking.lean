import NodeScaler.Http.Scripted
import NodeScaler.Proofs.Http.Exchange
import NodeScaler.Proofs.Provider.Asking
import NodeScaler.Vcenter.Machine

/-!
# What a session asks

A session sends nothing but requests of its own. Its lookups read: the objects that carry a tag are
found by reading tags and asking for the objects of one of them, and all else is read by requests
without a body. Only a clone may wait for ever.
-/

namespace NodeScaler

open Plan (Asks)

namespace Vcenter

variable {α : Type} {stalls : Prop} {session : Session} {request : HttpRequest}
  {allowed : HttpRequest → Prop} {method : HttpMethod} {path : String}
  {fields : List (String × String)} {body : Option Json.Value}

/-- The path is one of the platform's interface. -/
def IsApi (path : String) : Prop := "/api/".toList <+: path.toList

instance (path : String) : Decidable (IsApi path) := inferInstanceAs (Decidable (_ <+: _))

/-- A path may be continued. -/
theorem IsApi.append (isApi : IsApi path) (more : String) : IsApi (path ++ more) := by
  unfold IsApi
  rw [String.toList_append]
  exact isApi.trans (List.prefix_append _ _)

/-- The request is one of the session. -/
def Session.Makes (session : Session) (request : HttpRequest) : Prop :=
  ∃ method path fields body, IsApi path ∧
    session.request? method path fields body = some request

/-- The request reads something. -/
def Session.Reads (session : Session) (request : HttpRequest) : Prop :=
  ∃ path fields, IsApi path ∧ session.request? .get path fields none = some request

/-- The request reads tags. -/
inductive Session.ReadsTag (session : Session) (request : HttpRequest) : Prop where
  /-- It reads which tags there are. -/
  | all (asked : session.request? .get "/api/cis/tagging/tag" [] none = some request)
  /-- It reads a tag. -/
  | one (id : String)
      (asked : session.request? .get ("/api/cis/tagging/tag/" ++ id) [] none = some request)

/-- The request looks up tags, or the objects of one. -/
inductive Session.LooksUp (session : Session) (request : HttpRequest) : Prop where
  /-- It reads tags. -/
  | tag (reads : session.ReadsTag request)
  /-- It asks for the objects of a tag. -/
  | objects (id : String)
      (asked : session.request? .post (Session.associationPath id)
        [("action", "list-attached-objects")] none = some request)

/-- What reads tags reads something. -/
theorem Session.ReadsTag.reads (readsTag : session.ReadsTag request) : session.Reads request := by
  have isApi : IsApi "/api/cis/tagging/tag/" := by decide
  cases readsTag with
  | all asked => exact ⟨_, _, by decide, asked⟩
  | one id asked => exact ⟨_, _, isApi.append id, asked⟩

/-- What reads something is a request of the session. -/
theorem Session.Reads.makes (reads : session.Reads request) : session.Makes request := by
  obtain ⟨path, fields, isApi, asked⟩ := reads
  exact ⟨.get, path, fields, none, isApi, asked⟩

/-- The path for the objects of a tag is one of the interface. -/
theorem isApi_associationPath (id : String) : IsApi (Session.associationPath id) := by
  have isApi : IsApi "/api/cis/tagging/tag-association/" := by decide
  exact isApi.append id

/-- What looks up tags is a request of the session. -/
theorem Session.LooksUp.makes (looksUp : session.LooksUp request) : session.Makes request := by
  cases looksUp with
  | tag reads => exact reads.reads.makes
  | objects id asked => exact ⟨_, _, _, _, isApi_associationPath id, asked⟩

/-! ## Requests -/

/-- A request of a session can be written just if its address can be read and its token be written. -/
theorem Session.request?_eq_some_iff :
    session.request? method path fields body = some request ↔
      ∃ url, Url.parse? (session.base ++ path) = some url ∧ Http.isWritable session.token = true ∧
        request = ⟨method, url.withFields fields,
          addressHeaders url ++ [(tokenHeader, session.token)], body, session.insecure⟩ := by
  unfold Session.request?
  constructor
  · intro asked
    obtain ⟨url, isUrl, written⟩ := Option.bind_eq_some_iff.1 asked
    by_cases writable : Http.isWritable session.token = true
    · have writes : (guard (Http.isWritable session.token = true) : Option Unit) = some () :=
        if_pos writable
      rw [writes] at written
      exact ⟨url, isUrl, writable, (Option.some.inj written).symm⟩
    · have fails : (guard (Http.isWritable session.token = true) : Option Unit) = none :=
        if_neg writable
      rw [fails] at written
      cases written
  · rintro ⟨url, isUrl, writable, rfl⟩
    have writes : (guard (Http.isWritable session.token = true) : Option Unit) = some () :=
      if_pos writable
    rw [isUrl, writes]
    rfl

/-- A request of a session as it is written. -/
theorem Session.request?_eq_some (asked : session.request? method path fields body = some request) :
    ∃ url, Url.parse? (session.base ++ path) = some url ∧
      request = ⟨method, url.withFields fields,
        addressHeaders url ++ [(tokenHeader, session.token)], body, session.insecure⟩ := by
  obtain ⟨url, isUrl, -, isRequest⟩ := request?_eq_some_iff.1 asked
  exact ⟨url, isUrl, isRequest⟩

/-- The target of a request ends with the fields that are added to its query. -/
theorem target_withFields (nonempty : fields ≠ []) (url : Url) :
    Percent.fields fields <:+ (url.withFields fields).target.toList := by
  have some : fields.isEmpty = false := by simpa using nonempty
  unfold Url.withFields Url.target
  rw [some]
  simp only [Bool.false_eq_true, if_false, String.toList_append]
  refine List.IsSuffix.trans ?_ (List.suffix_append _ _)
  split <;> simp only [String.toList_append, String.toList_ofList]
  · exact List.suffix_append _ _
  · exact List.suffix_append _ _
  · exact (List.suffix_append _ _).trans (List.suffix_append _ _)

/-- What reads changes nothing. -/
theorem Session.Reads.isChange_eq_false (reads : session.Reads request) :
    ScriptedServer.isChange request = false := by
  obtain ⟨path, fields, -, asked⟩ := reads
  obtain ⟨url, -, rfl⟩ := Session.request?_eq_some asked
  rfl

/-- What looks up tags, or the objects of one, changes nothing. -/
theorem Session.LooksUp.isChange_eq_false (looksUp : session.LooksUp request) :
    ScriptedServer.isChange request = false := by
  cases looksUp with
  | tag reads => exact reads.reads.isChange_eq_false
  | objects id asked =>
    obtain ⟨url, -, rfl⟩ := Session.request?_eq_some asked
    let fields := [("action", "list-attached-objects")]
    have ends : Percent.fields fields <:+ (url.withFields fields).target.toList :=
      target_withFields (List.cons_ne_nil _ _) url
    have other (word : String) (apart : ¬word.toList <:+ Percent.fields fields ∧
        ¬Percent.fields fields <:+ word.toList) :
        (url.withFields fields).target.endsWith word = false := by
      rw [Bool.eq_false_iff, Ne, String.endsWith_eq_endsWith_toSlice,
        String.Slice.endsWith_string_iff, String.copy_toSlice]
      intro isSuffix
      exact (List.suffix_or_suffix_of_suffix isSuffix ends).elim apart.1 apart.2
    simp only [ScriptedServer.isChange]
    rw [other "action=clone" (by decide), other "action=attach" (by decide)]
    rfl

/-- Sending a request of the session asks it. -/
theorem send_asks (isAllowed : ∀ request,
      session.request? method path fields body = some request → allowed request) :
    (session.send method path fields body).run.Asks (I := Http) allowed False := by
  unfold Session.send
  cases asked : session.request? method path fields body with
  | none => exact .done _
  | some request =>
    exact ((Http.exchange_asks (isAllowed request asked)).attemptWithin session.timeout _).mapError _

/-- Reading what a response says asks the request. -/
theorem fetch_asks (read : Json.Value → Option α) (isAllowed : ∀ request,
      session.request? method path fields none = some request → allowed request) :
    (session.fetch read method path fields).run.Asks (I := Http) allowed False :=
  (send_asks isAllowed).attempt fun _ => .done _

/-- A login asks its one request. -/
theorem login_asks (address user password : String) (insecure : Bool) (timeout : Duration) :
    (login address user password insecure timeout).run.Asks (I := Http)
      (fun request => loginRequest? (withoutSlashes address) user password insecure = some request)
      False := by
  refine Asks.attempt (Asks.mapError ?_ _) fun response => ?_
  · cases asked : loginRequest? (withoutSlashes address) user password insecure with
    | none => exact .done _
    | some request =>
      have asks := @Http.exchange_asks (fun other => some request = some other) request rfl
      exact asks.attemptWithin timeout _
  · dsimp only
    split
    · exact .done _
    · exact Asks.attempt (.done _) fun _ => .done _

/-! ## Tags -/

/-- The listed tags are read one after the other. -/
theorem firstNamed_asks (session : Session) (name : String) (listed : List String) :
    (session.firstNamed name listed).run.Asks (I := Http) session.ReadsTag False := by
  induction listed with
  | nil => exact .done _
  | cons id rest inductionHypothesis =>
    have read : (session.tag id).run.Asks (I := Http) session.ReadsTag False :=
      fetch_asks _ fun _ asked => .one id asked
    refine read.attempt fun entry => ?_
    dsimp only
    split
    · exact .done _
    · exact inductionHypothesis

/-- The identifier of a tag is looked up. -/
theorem tagId?_asks (session : Session) (name : String) :
    (session.tagId? name).run.Asks (I := Http) session.ReadsTag False :=
  (fetch_asks _ fun _ asked => .all asked).attempt fun listed => firstNamed_asks session name listed

/-- The objects that carry a tag are looked up. -/
theorem carriers_asks (session : Session) (name : String) :
    (session.carriers name).run.Asks (I := Http) session.LooksUp False := by
  refine ((tagId?_asks session name).widen (fun _ => Session.LooksUp.tag) id).attempt fun found => ?_
  cases found with
  | none => exact .done _
  | some id => exact (fetch_asks _ fun _ asked => .objects id asked).attempt fun _ => .done _

/-- A tag is attached by requests of the session. -/
theorem attach_asks (session : Session) (name : String) (object : ObjectRef) :
    (session.attach name object).run.Asks (I := Http) session.Makes False := by
  refine ((tagId?_asks session name).widen (fun _ reads => reads.reads.makes) id).attempt
    fun found => ?_
  cases found with
  | none => exact .done _
  | some id =>
    exact (send_asks fun _ asked => ⟨_, _, _, _, isApi_associationPath id, asked⟩).attempt fun _ =>
      Asks.attempt (.done _) fun _ => .done _

/-! ## Machines -/

/-- A machine is read. -/
theorem machine_asks (session : Session) (object : ObjectRef) :
    (session.machine object).run.Asks (I := Http) session.Reads False := by
  have isApi : IsApi "/api/vcenter/vm/" := by decide
  exact fetch_asks _ fun _ asked => ⟨_, _, isApi.append object.id, asked⟩

/-- The name of a machine is read. -/
theorem machineName_asks (session : Session) (object : ObjectRef) :
    (session.machineName object).run.Asks (I := Http) session.Reads False :=
  (machine_asks session object).attempt fun _ => .done _

/-- The BIOS UUID of a machine is read. -/
theorem machineUuid_asks (session : Session) (object : ObjectRef) :
    (session.machineUuid object).run.Asks (I := Http) session.Reads False := by
  refine (machine_asks session object).attempt fun info => ?_
  cases info.uuid with
  | none => exact .done _
  | some uuid => exact .done _

/-- A part of the inventory is read and one entry picked. -/
theorem find_asks (session : Session) (kind idField name : String) (isApi : IsApi path)
    (fields : List (String × String)) :
    (session.find kind idField path name fields).run.Asks (I := Http) session.Reads False :=
  (fetch_asks _ fun _ asked => ⟨_, _, isApi, asked⟩).attempt fun _ => .done _

/-- A clone is placed by reading, and then asked for. -/
theorem clone_asks (session : Session) (request : CloneRequest) :
    (session.clone request).run.Asks (I := Http) session.Makes True := by
  have found (kind idField name : String) {path : String} (isApi : IsApi path)
      (fields : List (String × String)) :
      (session.find kind idField path name fields).run.Asks (I := Http) session.Makes True :=
    (find_asks session kind idField name isApi fields).widen (fun _ => Session.Reads.makes) False.elim
  refine (found _ _ _ (by decide) _).attempt fun datacenter => ?_
  refine (found _ _ _ (by decide) _).attempt fun pool => ?_
  refine (found _ _ _ (by decide) _).attempt fun folder => ?_
  refine (found _ _ _ (by decide) _).attempt fun source => ?_
  refine Asks.attempt (Asks.mapError ?_ _) fun response => ?_
  · cases asked : session.request? .post "/api/vcenter/vm" [("action", "clone")]
        (some (Session.cloneBody source request.name folder pool)) with
    | none => exact .done _
    | some request => exact Http.exchange_asks ⟨_, _, _, _, by decide, asked⟩
  · exact Asks.attempt (.done _) fun _ => .done _

/-- A session keeps to its requests. -/
theorem session_keeps (session : Session) : session.client.Keeps session.Makes where
  resolve tag := (carriers_asks session tag).widen (fun _ => Session.LooksUp.makes) id
  attach tag object := attach_asks session tag object
  name object := (machineName_asks session object).widen (fun _ => Session.Reads.makes) id
  uuid object := (machineUuid_asks session object).widen (fun _ => Session.Reads.makes) id
  clone request := clone_asks session request

/-- The lookups of a session read. -/
theorem session_lookups (session : Session) :
    Cloning.Lookups session.client fun request => session.LooksUp request ∨ session.Reads request :=
  .ofAsks (fun tag => (carriers_asks session tag).widen (fun _ => Or.inl) id)
    (fun object => (machineName_asks session object).widen (fun _ => Or.inr) id)
    (fun object => (machineUuid_asks session object).widen (fun _ => Or.inr) id)

end Vcenter

end NodeScaler
