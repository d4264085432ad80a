import NodeScaler.Proofs.Inventory.Answering
import NodeScaler.Proofs.Vcenter.Mirror

/-!
# Tags and clones at a mirroring server

Attaching a tag through a session does what it does to an inventory in memory and ends with the
same result. A clone takes five requests; it makes the same machine or fails in a like way.
-/

namespace NodeScaler

/-- Failures of a server and of an inventory in memory that are alike. -/
inductive Akin : InventoryError → InventoryError → Prop where
  /-- Something is not there. -/
  | absent (text other : String) : Akin (.notFound text) (.notFound other)
  /-- A name is taken. -/
  | taken (text other : String) : Akin (.alreadyExists text) (.alreadyExists other)
  /-- A clone fails, but not because its name is taken. -/
  | refused {error : InventoryError} (notTaken : ∀ text, error ≠ .alreadyExists text)
      (other : String) : Akin error (.request other)

/-- Results of a server and of an inventory in memory that are alike: equal values, or failures
that are alike. -/
inductive Alike {α : Type} : Except InventoryError α → Except InventoryError α → Prop where
  /-- Both succeed. -/
  | ok (value : α) : Alike (.ok value) (.ok value)
  /-- Both fail. -/
  | error {error failure : InventoryError} (akin : Akin error failure) :
      Alike (.error error) (.error failure)

namespace Vcenter

variable {σ : Type} {site : Site} {handler : Handler Http σ} {shows : σ → Memory → Prop}
  {memory : Memory} {state : σ}

/-! ## What responses to a clone say -/

/-- A response that says that a name is taken is read so. -/
theorem decoded_taken {α : Type} {read : Json.Value → Option α} {response : HttpResponse}
    (taken : Site.SaysTaken response) :
    decoded read response = .error (.alreadyExists response.body) := by
  have isError : checked response = .error (.alreadyExists response.body) := by
    obtain ⟨status, word⟩ := taken
    simp [checked, status, word]
  rw [decoded, isError]
  rfl

/-- Any other error is read as a failure of another kind. -/
theorem decoded_refuses {α : Type} {read : Json.Value → Option α} {response : HttpResponse}
    (refuses : Site.Refuses response) :
    ∃ error, decoded read response = .error error ∧ ∀ text, error ≠ .alreadyExists text := by
  obtain ⟨least, most, notTaken⟩ := refuses
  obtain ⟨error, isError, isOther⟩ : ∃ error, checked response = .error error ∧
      ∀ text, error ≠ .alreadyExists text := by
    unfold checked
    dsimp only
    rw [if_neg (by omega)]
    split
    · exact ⟨_, rfl, fun _ same => by cases same⟩
    · split
      · exact ⟨_, rfl, fun _ same => by cases same⟩
      · split
        · next taken => exact absurd taken notTaken
        · exact ⟨_, rfl, fun _ same => by cases same⟩
  refine ⟨error, ?_, isOther⟩
  rw [decoded, isError]
  rfl

/-! ## Tags -/

/-- Attaching a tag to a machine ends as over an inventory in memory. -/
theorem Site.Mirrors.attach (mirrors : site.Mirrors handler shows)
    (addressable : site.Addressable memory) (isShown : shows state memory) (tag : String)
    {object : ObjectRef} (has : memory.Has object) :
    let outcome := Memory.answer (.attach tag object) memory
    ∃ limit, (site.session.attach tag object).run.Yields handler
      (fun result last => result = outcome.1 ∧ shows last outcome.2) limit state := by
  intro outcome
  have isThere : ¬(memory.find? object).isNone = true := by
    simp [Option.isNone_iff_eq_none, ← Option.isSome_iff_ne_none, Memory.find?_isSome_iff, has]
  obtain ⟨limit, found⟩ := (mirrors.tagId? addressable isShown tag).yields isShown
  by_cases hasTag : Site.HasTag memory tag
  · have isTag : ¬(memory.carriers? tag).isNone = true := by
      simpa [Site.HasTag, Option.isSome_iff_ne_none] using hasTag
    have whole : outcome = (.ok (), memory.putTag object tag) :=
      (if_neg isThere).trans (if_neg isTag)
    have plain : ∀ segment ∈ site.association tag, Url.IsId segment :=
      Site.plain_append ["api", "cis", "tagging", "tag-association"] (by decide)
        (mirrors.isId isShown hasTag)
    have isAddress : site.home.below (site.association tag) [("action", "attach")] ∈
        site.tagAddresses tag := by
      simp [Site.tagAddresses]
    have sends := mirrors.sends .post (some (Session.attachment object)) (List.cons_ne_nil _ _)
      plain (Site.written_append Site.written_tags.2.2 _) (addressable.tag hasTag isAddress)
    refine ⟨limit + (site.latency.nanoseconds + 0), ?_⟩
    rw [whole]
    refine Plan.Yields.attemptOk found fun state isShown => ?_
    rw [if_pos hasTag]
    refine Plan.Yields.attempt
      (sends.yields mirrors.prompt (mirrors.attaches isShown hasTag has)) ?_ ?_
    · rintro found last ⟨response, same, isOk, isShown⟩
      cases same
      rw [show checked found = .ok found from if_pos isOk]
      exact ⟨_, rfl, ⟨rfl, isShown⟩, Nat.le_refl _⟩
    · rintro error last ⟨response, same, -⟩
      cases same
  · have isNone : (memory.carriers? tag).isNone = true := by
      simpa [Site.HasTag, Option.isSome_iff_ne_none] using hasTag
    have whole : outcome = (.error (.notFound ("tag " ++ tag)), memory) :=
      (if_neg isThere).trans (if_pos isNone)
    refine ⟨limit + 0, ?_⟩
    rw [whole]
    refine Plan.Yields.attemptOk found fun state isShown => ?_
    rw [if_neg hasTag]
    exact ⟨_, rfl, ⟨rfl, isShown⟩, Nat.le_refl _⟩

/-! ## Placement -/

/-- The only candidate that is meant is picked. -/
theorem pick_one {kind name id found : String} {candidates : List (String × String)}
    (meant : candidates.filter (fun (_, found) => name = "" || found = name) = [(id, found)]) :
    pick kind name candidates = .ok id := by
  rw [pick, meant]

/-- If none is meant then there is nothing to pick. -/
theorem pick_none {kind name : String} {candidates : List (String × String)}
    (meant : candidates.filter (fun (_, found) => name = "" || found = name) = []) :
    ∃ text, pick kind name candidates = .error (.notFound text) := by
  rw [pick, meant]
  dsimp only
  split
  · exact ⟨_, rfl⟩
  · exact ⟨_, rfl⟩

/-- Candidates are looked up with one request, and then one is picked. -/
theorem Site.Mirrors.find (mirrors : site.Mirrors handler shows) {kind idField path name : String}
    {fields : List (String × String)} {segments : List String} (nonempty : segments ≠ [])
    (plain : ∀ segment ∈ segments, Url.IsId segment)
    (written : path.toList = Url.pathChars segments)
    (requestable : (site.home.below segments fields).isRequestable = true)
    {reply : HttpResponse → Prop} {picked : Except InventoryError String → Prop}
    (replies : site.Replies handler shows (site.get segments fields) state reply memory)
    (picks : ∀ response, reply response → ∃ candidates,
      Conveys (listOf? (named? idField)) candidates response ∧ picked (pick kind name candidates)) :
    (site.session.find kind idField path name fields).run.Yields handler
      (fun result last => picked result ∧ shows last memory) site.latency.nanoseconds state := by
  have sends := mirrors.sends .get none nonempty plain written requestable
  have fetches : (site.session.fetch (listOf? (named? idField)) .get path fields).run.Yields handler
      (fun result last => (∃ candidates, result = .ok candidates ∧
        picked (pick kind name candidates)) ∧ shows last memory) site.latency.nanoseconds state :=
    fetch_yields sends mirrors.prompt replies picks
  have whole : (site.session.find kind idField path name fields).run.Yields handler
      (fun result last => picked result ∧ shows last memory) (site.latency.nanoseconds + 0)
      state := by
    refine Plan.Yields.attempt fetches ?_ ?_
    · rintro candidates last ⟨⟨found, same, isPicked⟩, isShown⟩
      cases same
      exact Plan.yields_done ⟨isPicked, isShown⟩
    · rintro error last ⟨⟨found, same, -⟩, -⟩
      cases same
  exact whole

/-- The only candidate that is meant is found. -/
theorem Site.Mirrors.findOne (mirrors : site.Mirrors handler shows)
    {kind idField path name id : String} {fields : List (String × String)} {segments : List String}
    (nonempty : segments ≠ []) (plain : ∀ segment ∈ segments, Url.IsId segment)
    (written : path.toList = Url.pathChars segments)
    (requestable : (site.home.below segments fields).isRequestable = true)
    (replies : site.Replies handler shows (site.get segments fields) state
      (fun response => ∃ found, Site.Offers idField name [(id, found)] response) memory) :
    (site.session.find kind idField path name fields).run.Yields handler
      (fun result last => result = .ok id ∧ shows last memory) site.latency.nanoseconds state := by
  apply mirrors.find nonempty plain written requestable replies
  rintro response ⟨found, candidates, meant, conveyed⟩
  exact ⟨candidates, conveyed, pick_one meant⟩

/-- The datacenter is found. -/
theorem Site.Mirrors.datacenter (mirrors : site.Mirrors handler shows)
    (addressable : site.Addressable memory) (isShown : shows state memory) :
    (site.session.datacenter site.cloning.datacenter).run.Yields handler
      (fun result last => result = .ok site.datacenter ∧ shows last memory)
      site.latency.nanoseconds state :=
  mirrors.findOne (by decide) (by decide) Site.written_machines.2.2.1
    (addressable.clone List.mem_cons_self) (mirrors.offersDatacenter isShown)

/-- The resource pool is found. -/
theorem Site.Mirrors.pool (mirrors : site.Mirrors handler shows)
    (addressable : site.Addressable memory) (isShown : shows state memory) :
    (site.session.resourcePool site.datacenter site.cloning.resourcePool).run.Yields handler
      (fun result last => result = .ok site.pool ∧ shows last memory)
      site.latency.nanoseconds state :=
  mirrors.findOne (by decide) (by decide) Site.written_machines.2.2.2.1
    (addressable.clone (List.mem_cons_of_mem _ List.mem_cons_self)) (mirrors.offersPool isShown)

/-- The folder is found. -/
theorem Site.Mirrors.folder (mirrors : site.Mirrors handler shows)
    (addressable : site.Addressable memory) (isShown : shows state memory) :
    (site.session.folder site.datacenter).run.Yields handler
      (fun result last => result = .ok site.folder ∧ shows last memory)
      site.latency.nanoseconds state :=
  mirrors.findOne (by decide) (by decide) Site.written_machines.2.2.2.2
    (addressable.clone (List.mem_cons_of_mem _ (List.mem_cons_of_mem _ List.mem_cons_self)))
    (mirrors.offersFolder isShown)

/-- What looking up the template comes to: it is found, unless there is none. -/
def Placed (site : Site) (memory : Memory) : Except InventoryError String → Prop
  | .ok id => id = site.source ∧ site.cloning.template ∈ memory.templates
  | .error error => site.cloning.template ∉ memory.templates ∧ ∃ text, error = .notFound text

/-- The template is found if there is one. -/
theorem Site.Mirrors.template (mirrors : site.Mirrors handler shows)
    (addressable : site.Addressable memory) (isShown : shows state memory)
    (apart : site.cloning.template ∉ memory.machines) :
    (site.session.template site.datacenter site.cloning.template).run.Yields handler
      (fun result last => Placed site memory result ∧ shows last memory)
      site.latency.nanoseconds state := by
  apply mirrors.find (by decide) (by decide) Site.written_machines.1
    (addressable.clone (List.mem_cons_of_mem _ (List.mem_cons_of_mem _
      (List.mem_cons_of_mem _ List.mem_cons_self)))) (mirrors.offersTemplate isShown apart)
  rintro response ⟨candidates, meant, conveyed⟩
  refine ⟨candidates, conveyed, ?_⟩
  split at meant
  · next isTemplate =>
    rw [pick_one meant]
    exact ⟨rfl, isTemplate⟩
  · next isNone =>
    obtain ⟨text, missing⟩ := @pick_none "template" _ _ meant
    rw [missing]
    exact ⟨isNone, text, rfl⟩

/-! ## Clones -/

/-- The request for a clone of the template is answered in a like way. -/
theorem Site.Mirrors.cloneReplies (mirrors : site.Mirrors handler shows)
    (isShown : shows state memory) (isTemplate : site.cloning.template ∈ memory.templates)
    {name : String} (free : name ∉ site.kept) :
    let outcome := Memory.answer (.finishClone (site.cloning.request name)) memory
    site.Replies handler shows (site.cloneRequest name) state
      (fun response => Alike (.vm <$> decoded Json.Value.text? response) outcome.1) outcome.2 := by
  intro outcome
  by_cases failing : name ∈ memory.failing
  · obtain ⟨response, last, responds, refuses, stays⟩ :=
      mirrors.refuses isShown isTemplate free failing
    obtain ⟨error, isError, isOther⟩ := @decoded_refuses _ Json.Value.text? _ refuses
    have whole : outcome =
        (.error (.request ("clone of " ++ name ++ " failed")), memory) := if_pos failing
    rw [whole]
    refine ⟨response, last, responds, ?_, stays⟩
    dsimp only
    rw [isError]
    exact .error (.refused isOther _)
  · by_cases isTaken : name ∈ memory.machines
    · obtain ⟨response, last, responds, taken, stays⟩ :=
        mirrors.denies isShown isTemplate free failing isTaken
      have whole : outcome = (.error (.alreadyExists ("the name '" ++ name ++ "' already exists")),
          memory) := (if_neg failing).trans (if_pos isTaken)
      rw [whole]
      refine ⟨response, last, responds, ?_, stays⟩
      dsimp only
      rw [decoded_taken taken]
      exact .error (.taken _ _)
    · obtain ⟨response, last, responds, conveyed, stays⟩ :=
        mirrors.clones isShown isTemplate free failing isTaken
      have whole : outcome = (.ok (memory.allocate name).1, (memory.allocate name).2) :=
        (if_neg failing).trans (if_neg isTaken)
      rw [whole]
      refine ⟨response, last, responds, ?_, stays⟩
      dsimp only
      rw [show decoded _ response = _ from conveyed]
      exact .ok _

/-- The request for a clone is sent once and answered. -/
theorem Site.Mirrors.cloneRequested (mirrors : site.Mirrors handler shows)
    (addressable : site.Addressable memory) (isShown : shows state memory)
    (isTemplate : site.cloning.template ∈ memory.templates) {name : String}
    (free : name ∉ site.kept) :
    let outcome := Memory.answer (.finishClone (site.cloning.request name)) memory
    ((attempt Http.exchange (site.session.request? .post "/api/vcenter/vm" [("action", "clone")]
      (some (Session.cloneBody site.source name site.folder site.pool)))).mapError fun failure =>
        InventoryError.request failure.message).run.Yields handler
      (fun result last => ∃ response, result = .ok response ∧
        Alike (.vm <$> decoded Json.Value.text? response) outcome.1 ∧ shows last outcome.2)
      site.latency.nanoseconds state := by
  intro outcome
  have isAddress : site.home.below Site.machines [("action", "clone")] ∈ site.cloneAddresses := by
    simp [Site.cloneAddresses]
  have written := mirrors.usable.request? .post (by decide) (by decide) Site.written_machines.1
    [("action", "clone")] (some (Session.cloneBody site.source name site.folder site.pool))
  have requestable : (site.cloneRequest name).url.isRequestable = true :=
    addressable.clone isAddress
  have sends := sends_exchange requestable (fun failure => .request failure.message) site.latency
  rw [written]
  exact sends.yields (Nat.le_refl _) (mirrors.cloneReplies isShown isTemplate free)

/-- A clone takes the time of five responses at most, and ends as over an inventory in memory. -/
theorem Site.Mirrors.clone (mirrors : site.Mirrors handler shows)
    (addressable : site.Addressable memory) (isShown : shows state memory)
    (apart : site.cloning.template ∉ memory.machines) {name : String}
    (free : name ∉ site.kept) :
    let outcome := memory.cloned (site.cloning.request name)
    (site.session.clone (site.cloning.request name)).run.Yields handler
      (fun result last => Alike result outcome.1 ∧ shows last outcome.2)
      (5 * site.latency.nanoseconds) state := by
  intro outcome
  let latency := site.latency.nanoseconds
  have whole : (site.session.clone (site.cloning.request name)).run.Yields handler
      (fun result last => Alike result outcome.1 ∧ shows last outcome.2)
      (latency + (latency + (latency + (latency + (latency + 0))))) state := by
    refine Plan.Yields.attemptOk (mirrors.datacenter addressable isShown) fun state isShown => ?_
    refine Plan.Yields.attemptOk (mirrors.pool addressable isShown) fun state isShown => ?_
    refine Plan.Yields.attemptOk (mirrors.folder addressable isShown) fun state isShown => ?_
    refine Plan.Yields.attempt (mirrors.template addressable isShown apart) ?_ ?_
    · rintro source last ⟨⟨rfl, isTemplate⟩, isShown⟩
      have asked := mirrors.cloneRequested addressable isShown isTemplate free
      rw [show outcome = Memory.answer (.finishClone (site.cloning.request name)) memory from
        if_pos isTemplate]
      refine Plan.Yields.attempt asked ?_ ?_
      · rintro found last ⟨response, same, alike, isShown⟩
        cases same
        generalize decoded Json.Value.text? found = decodes at alike
        cases decodes with
        | error error => exact ⟨_, rfl, ⟨alike, isShown⟩, Nat.le_refl _⟩
        | ok id => exact ⟨_, rfl, ⟨alike, isShown⟩, Nat.le_refl _⟩
      · rintro error last ⟨response, same, -⟩
        cases same
    · rintro error last ⟨⟨isNone, text, rfl⟩, isShown⟩
      rw [show outcome = (.error (.notFound ("template " ++ site.cloning.template)), memory) from
        if_neg isNone]
      exact ⟨.error (.absent _ _), isShown⟩
  exact whole.mono (fun _ _ isEnd => isEnd) (by omega)

end Vcenter

end NodeScaler
