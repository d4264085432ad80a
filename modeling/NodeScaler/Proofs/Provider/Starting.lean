import NodeScaler.Proofs.Config.Flaws
import NodeScaler.Proofs.Http.Redirect
import NodeScaler.Proofs.Plan.Joining
import NodeScaler.Proofs.Vcenter.Hearing

/-!
# Starting up

What is given at the start is checked before anything is sent, and the first flaw is all that comes
of it. Otherwise the login comes first, and then the two tags of the group are looked up, with nothing
but reads. There is a provider just if all three succeed, and its one group has as many members as
the server tells.
-/

namespace NodeScaler

open Plan (Hears)
open Vcenter (Session)

/-! ## The size of a group -/

namespace Membership

variable {I : Interface} {exchanges : List (Exchange I)} {time : Duration}

/-- What comes of looking up the members of a group follows from the lookups of its two tags: there
are members just if both succeed, and otherwise the failure of one of them. -/
inductive Meets : Option (Except InventoryError RefSet) → Option (Except InventoryError RefSet) →
    Except ProviderError RefSet → Prop where
  /-- Both succeed. -/
  | ok (inCluster inGroup : RefSet) :
      Meets (some (.ok inCluster)) (some (.ok inGroup)) (.ok (inCluster.intersect inGroup))
  /-- The lookup for the cluster fails. -/
  | cluster (error : InventoryError) (inGroup : Option (Except InventoryError RefSet)) :
      Meets (some (.error error)) inGroup (.error (.inventory error))
  /-- The lookup for the group fails. -/
  | group (inCluster : Option (Except InventoryError RefSet)) (error : InventoryError) :
      Meets inCluster (some (.error error)) (.error (.inventory error))

/-- Two lookups side by side, with failures seen as those of a provider. -/
theorem meets_of_joint {inCluster inGroup : Option (Except InventoryError RefSet)}
    {found : Except ProviderError (RefSet × RefSet)}
    (joint : Plan.Joint (inCluster.map (Except.mapError .inventory))
      (inGroup.map (Except.mapError .inventory)) (some found)) :
    Meets inCluster inGroup ((fun (first, second) => first.intersect second) <$> found) := by
  rcases inCluster with - | error | first
  · rcases inGroup with - | failure | second
    · cases joint
    · cases joint
      exact .group none failure
    · cases joint
  · rcases inGroup with - | failure | second
    · cases joint
      exact .cluster error none
    · cases joint with
      | first => exact .cluster error _
      | second => exact .group _ failure
    · cases joint
      exact .cluster error _
  · rcases inGroup with - | failure | second
    · cases joint
    · cases joint
      exact .group _ failure
    · cases joint
      exact .ok first second

/-- Looking up the members hears what the two lookups hear side by side. -/
theorem hears_members {membership : Membership I} {group : String}
    {result : Except ProviderError RefSet}
    (hears : (membership.members group).run.Hears exchanges time (some result)) :
    ∃ ofCluster taken inCluster ofGroup needed inGroup,
      (membership.client.resolve (clusterTag membership.cluster)).run.Hears ofCluster taken inCluster ∧
      (membership.client.resolve (groupTag group)).run.Hears ofGroup needed inGroup ∧
      Merged ofCluster ofGroup exchanges ∧ Meets inCluster inGroup result := by
  unfold members at hears
  have both {found : Except ProviderError (RefSet × RefSet)} {told : List (Exchange I)}
      {needed : Duration} (hears : (Plan.both
        (membership.carriers (clusterTag membership.cluster)).run
        (membership.carriers (groupTag group)).run).Hears told needed (some found)) :
      ∃ ofCluster taken inCluster ofGroup needed inGroup,
        (membership.client.resolve (clusterTag membership.cluster)).run.Hears ofCluster taken
          inCluster ∧
        (membership.client.resolve (groupTag group)).run.Hears ofGroup needed inGroup ∧
        Merged ofCluster ofGroup told ∧
        Meets inCluster inGroup ((fun (first, second) => first.intersect second) <$> found) := by
    obtain ⟨ofCluster, taken, inCluster, ofGroup, needed, inGroup, first, second, merged, joint⟩ :=
      hears.of_both
    obtain ⟨inCluster, alone, rfl⟩ := first.of_map
    obtain ⟨inGroup, beside, rfl⟩ := second.of_map
    refine ⟨ofCluster, taken, inCluster, ofGroup, needed, inGroup, alone, beside, merged, ?_⟩
    exact meets_of_joint joint
  rcases hears.of_attempt_some with ⟨error, rfl, failed⟩ |
    ⟨⟨inCluster, inGroup⟩, before, between, after, late, found, rest, rfl, -⟩
  · exact both failed
  · obtain ⟨rfl, -, rfl⟩ := Hears.of_done_some rest
    rw [List.append_nil]
    exact both found

/-- Counting the members hears what looking them up hears. -/
theorem hears_count {membership : Membership I} {group : String} {result : Except ProviderError Nat}
    (hears : (membership.count group).run.Hears exchanges time (some result)) :
    ∃ members taken, (membership.members group).run.Hears exchanges taken (some members) ∧
      result = (fun members => members.members.length % Nat.pow 2 32) <$> members := by
  unfold count at hears
  rcases hears.of_attempt_some with ⟨error, rfl, failed⟩ |
    ⟨members, before, between, after, late, found, rest, rfl, -⟩
  · exact ⟨_, _, failed, rfl⟩
  · obtain ⟨rfl, -, rfl⟩ := Hears.of_done_some rest
    rw [List.append_nil]
    exact ⟨_, _, found, rfl⟩

end Membership

/-- The size of a group is looked up, or a lookup fails. -/
theorem Cloning.size_ends {I : Interface} {σ : Type} {client : InventoryClient I}
    {harmless : I.Question → Prop} (lookups : Lookups client harmless) (cloning : Cloning)
    (group : String) (handler : Handler I σ) (state : σ) :
    ∃ exchanges result last, ((cloning.provisioner client).size group).run.transcript handler state =
      ⟨exchanges, some result, last⟩ := by
  have safe : ((cloning.provisioner client).size group).run.Harmless harmless (Plan.OnlyFails Idle) :=
    Plan.Harmless.attempt (members_harmless lookups cloning group) fun _ => trivial
  obtain ⟨exchanges, result, last, whole, -⟩ := safe.asks.ends handler state
  exact ⟨exchanges, result, last, whole⟩

/-- The names of the members of a group are looked up, or a lookup fails. -/
theorem Cloning.names_ends {I : Interface} {σ : Type} {client : InventoryClient I}
    {harmless : I.Question → Prop} (lookups : Lookups client harmless) (cloning : Cloning)
    (group : String) (handler : Handler I σ) (state : σ) :
    ∃ exchanges result last, (cloning.names client group).run.transcript handler state =
      ⟨exchanges, some result, last⟩ := by
  obtain ⟨exchanges, result, last, whole, -⟩ :=
    (names_harmless lookups cloning group).asks.ends handler state
  exact ⟨exchanges, result, last, whole⟩

/-! ## The order of the start -/

namespace StartOptions

variable {σ : Type} {options : StartOptions} {cluster : Cluster} {spec : GroupSpec}
  {server : Handler Http σ} {cells : List Nat} {state middle last : σ}
  {login lookups : List (Exchange Http)} {session : Session}

/-- A flaw is all that comes of the start. -/
theorem start_flaw {error : ConfigError} (flaw : options.Flaw error) (server : Handler Http σ)
    (cells : List Nat) (state : σ) :
    options.start.run.transcript (Targets.answer.sum server) (cells, state) =
      ⟨[], some (.error (.config error)), (cells, state)⟩ := by
  have fails : options.start = throw (.config error) := by
    unfold start
    rw [flaw.check]
    rfl
  rw [fails]
  rfl

/-- When all is in order, the login comes first and then the size of the group. -/
theorem start_eq (inOrder : options.InOrder cluster spec) :
    options.start = do
      let provisioner ← (provisioner cluster .rest).right
      let provider ← Provider.discover provisioner spec options.limits
      return ⟨provider, provisioner⟩ := by
  unfold start
  rw [inOrder.check]
  exact pure_bind (⟨cluster, spec, .rest⟩ : StartPlan) _

/-- The provisioner that clones machines in a session with the platform of a cluster. -/
def cloner (cluster : Cluster) (session : Session) : Provisioner Http :=
  cluster.cloning.provisioner session.client

/-- The provisioner comes after the login. -/
theorem provisioner_transcript {result : Except InventoryError Session}
    (connected : (connect cluster).run.transcript server state = ⟨login, some result, middle⟩) :
    (provisioner cluster .rest).run.transcript server state =
      ⟨login, some (cloner cluster <$> result.mapError .inventory), middle⟩ := by
  have seen := Plan.transcript_mapError connected ProviderError.inventory
  cases result with
  | error error => exact Plan.transcript_attempt_stops seen
  | ok session => exact Plan.transcript_attempt_value seen rfl

/-- The size of the group that cannot be had is all that comes of finding out about it. -/
theorem discover_unsized {provisioner : Provisioner Http} {error : ProviderError}
    (unsized : (provisioner.size spec.name).run.transcript server state =
      ⟨lookups, some (.error error), last⟩) (limits : ResourceLimits) (cells : List Nat) :
    (Provider.discover provisioner spec limits).run.transcript (Targets.answer.sum server)
      (cells, state) = ⟨lookups.map .onRight, some (.error error), (cells, last)⟩ := by
  have sizes := Plan.transcript_right_attempt unsized Targets.answer cells
  have group : (NodeGroup.discover provisioner spec).run.transcript (Targets.answer.sum server)
      (cells, state) = ⟨lookups.map .onRight, some (.error error), (cells, last)⟩ :=
    Plan.transcript_attempt_stops sizes
  exact Plan.transcript_attempt_stops group

/-- The size of the group is asked for and written down as its target. -/
theorem discover_sized {provisioner : Provisioner Http} {size : Nat}
    (sized : (provisioner.size spec.name).run.transcript server state =
      ⟨lookups, some (.ok size), last⟩) (limits : ResourceLimits) (cells : List Nat) :
    (Provider.discover provisioner spec limits).run.transcript (Targets.answer.sum server)
      (cells, state) = ⟨lookups.map .onRight ++ [⟨.inl (.create size), cells.length⟩],
        some (.ok ⟨limits, [⟨spec, cells.length⟩]⟩), (cells ++ [size], last)⟩ := by
  have sizes := Plan.transcript_right_attempt sized Targets.answer cells
  have group : (NodeGroup.discover provisioner spec).run.transcript (Targets.answer.sum server)
      (cells, state) = ⟨lookups.map .onRight ++ [⟨.inl (.create size), cells.length⟩],
        some (.ok ⟨spec, cells.length⟩), (cells ++ [size], last)⟩ :=
    Plan.transcript_attempt_then sizes rfl
  exact Plan.transcript_attempt_value group rfl

/-- A login that fails is all that comes of the start. -/
theorem start_refused (inOrder : options.InOrder cluster spec) {error : InventoryError}
    (refused : (connect cluster).run.transcript server state = ⟨login, some (.error error), middle⟩)
    (cells : List Nat) :
    options.start.run.transcript (Targets.answer.sum server) (cells, state) =
      ⟨login.map .onRight, some (.error (.inventory error)), (cells, middle)⟩ := by
  rw [start_eq inOrder]
  exact Plan.transcript_attempt_stops
    (Plan.transcript_right_attempt (provisioner_transcript refused) Targets.answer cells)

/-- After the login the size of the group is asked for; without it there is no provider. -/
theorem start_unsized (inOrder : options.InOrder cluster spec)
    (connected : (connect cluster).run.transcript server state = ⟨login, some (.ok session), middle⟩)
    {error : ProviderError} (unsized : ((cloner cluster session).size spec.name).run.transcript
      server middle = ⟨lookups, some (.error error), last⟩) (cells : List Nat) :
    options.start.run.transcript (Targets.answer.sum server) (cells, state) =
      ⟨(login ++ lookups).map .onRight, some (.error error), (cells, last)⟩ := by
  have provides := Plan.transcript_right_attempt (provisioner_transcript connected) Targets.answer cells
  have discovers := discover_unsized unsized options.limits cells
  rw [start_eq inOrder, List.map_append]
  exact Plan.transcript_attempt_then provides (Plan.transcript_attempt_stops discovers)

/-- With the size of the group there is a provider, and the size is written down. -/
theorem start_sized (inOrder : options.InOrder cluster spec)
    (connected : (connect cluster).run.transcript server state = ⟨login, some (.ok session), middle⟩)
    {size : Nat} (sized : ((cloner cluster session).size spec.name).run.transcript server middle =
      ⟨lookups, some (.ok size), last⟩) (cells : List Nat) :
    options.start.run.transcript (Targets.answer.sum server) (cells, state) =
      ⟨(login ++ lookups).map .onRight ++ [⟨.inl (.create size), cells.length⟩],
        some (.ok ⟨⟨options.limits, [⟨spec, cells.length⟩]⟩, cloner cluster session⟩),
        (cells ++ [size], last)⟩ := by
  have provides := Plan.transcript_right_attempt (provisioner_transcript connected) Targets.answer cells
  have discovers := discover_sized sized options.limits cells
  rw [start_eq inOrder, List.map_append, List.append_assoc]
  exact Plan.transcript_attempt_then provides (Plan.transcript_attempt_value discovers rfl)

/-! ## What comes of the start -/

/-- What the server has been asked at the start, and what it has told. -/
structure Opening where
  /-- The exchange of the login, unless it cannot be sent. -/
  login : List (Exchange Http)
  /-- What the login has come to. -/
  session : Except InventoryError Session
  /-- The exchanges of the lookup for the cluster. -/
  ofCluster : List (Exchange Http)
  /-- What this lookup has come to, if it is over. -/
  inCluster : Option (Except InventoryError RefSet)
  /-- The exchanges of the lookup for the group. -/
  ofGroup : List (Exchange Http)
  /-- What this lookup has come to, if it is over. -/
  inGroup : Option (Except InventoryError RefSet)

/-- What is sent to the server, among the exchanges with the targets. -/
def sent (exchanges : List (Exchange (Targets.sum Http))) : List (Exchange Http) :=
  exchanges.filterMap Exchange.right?

/-- What is exchanged with the server is sent. -/
theorem sent_map (exchanges : List (Exchange Http)) (others : List (Exchange (Targets.sum Http))) :
    sent (exchanges.map .onRight ++ others) = exchanges ++ sent others := by
  rw [sent, List.filterMap_append, List.filterMap_map]
  exact congrArg (· ++ sent others) List.filterMap_some

/-- The login and both lookups succeed. -/
def Opening.Succeeds (opening : Opening) : Prop :=
  (∃ session, opening.session = .ok session) ∧ (∃ objects, opening.inCluster = some (.ok objects)) ∧
    ∃ objects, opening.inGroup = some (.ok objects)

/-- The exchanges are a login and after it two lookups side by side, which only read. -/
structure Opening.Tells (opening : Opening) (cluster : Cluster) (spec : GroupSpec)
    (exchanges : List (Exchange Http)) : Prop where
  /-- All that is sent. -/
  sent : ∃ lookups, exchanges = opening.login ++ lookups ∧
    Merged opening.ofCluster opening.ofGroup lookups
  /-- The first request is the login. -/
  first : (opening.login = [] ∧ ∃ error, opening.session = .error error) ∨
    ∃ (request : HttpRequest) (reaction : Reaction),
      Vcenter.loginRequest? (Vcenter.withoutSlashes ("https://" ++ cluster.server)) cluster.user
        cluster.password cluster.insecure = some request ∧ opening.login = [⟨request, reaction⟩]
  /-- The login is decided by what comes of its request. -/
  login : ∃ time, (connect cluster).run.Hears opening.login time (some opening.session)
  /-- Without a session nothing is looked up. -/
  refused {error : InventoryError} : opening.session = .error error →
    opening.ofCluster = [] ∧ opening.inCluster = none ∧ opening.ofGroup = [] ∧ opening.inGroup = none
  /-- The lookup for the cluster is decided by what it is told. -/
  cluster {session : Session} : opening.session = .ok session →
    ∃ time, (session.carriers (clusterTag cluster.name)).run.Hears opening.ofCluster time
      opening.inCluster
  /-- The lookup for the group is decided by what it is told. -/
  group {session : Session} : opening.session = .ok session →
    ∃ time, (session.carriers (groupTag spec.name)).run.Hears opening.ofGroup time opening.inGroup
  /-- The lookups read tags and list objects, and change nothing. -/
  reads {session : Session} : opening.session = .ok session →
    ∀ exchange ∈ opening.ofCluster ++ opening.ofGroup, session.LooksUp exchange.question ∧
      ScriptedServer.isChange exchange.question = false

/-- There is a provider just if the login and both lookups succeed. Its group is the one announced,
with as many members as carry both tags. -/
structure Opening.Concludes (opening : Opening) (cluster : Cluster) (spec : GroupSpec)
    (limits : ResourceLimits) (cells : List Nat)
    (ending : Transcript (Targets.sum Http) (List Nat × σ) (Except ProviderError Running)) : Prop where
  /-- There is a result. -/
  ends : ∃ result, ending.value = some result
  /-- There is a provider, or there is none. -/
  ok_iff : (∃ running, ending.value = some (.ok running)) ↔ opening.Succeeds
  /-- The provider has one group, whose target is the number of its members. -/
  group {running : Running} {session : Session} {inCluster inGroup : RefSet} :
    ending.value = some (.ok running) → opening.session = .ok session →
    opening.inCluster = some (.ok inCluster) → opening.inGroup = some (.ok inGroup) →
    session.Carries (clusterTag cluster.name) opening.ofCluster inCluster ∧
    session.Carries (groupTag spec.name) opening.ofGroup inGroup ∧
    ((inCluster.intersect inGroup).members.length < Nat.pow 2 32 →
      running.provider = ⟨limits, [⟨spec, cells.length⟩]⟩ ∧
      ending.state.1 = cells ++ [(inCluster.intersect inGroup).members.length])
  /-- The first failure is reported, and no target is written. -/
  failure {error : ProviderError} : ending.value = some (.error error) → ending.state.1 = cells ∧
    ∃ cause, error = .inventory cause ∧ (opening.session = .error cause ∨
      opening.inCluster = some (.error cause) ∨ opening.inGroup = some (.error cause))

/-- The failure of the login or of a lookup is the result. -/
theorem Opening.concludes_failure {opening : Opening} {limits : ResourceLimits}
    {cause : InventoryError} {exchanges : List (Exchange (Targets.sum Http))}
    (isCause : opening.session = .error cause ∨ opening.inCluster = some (.error cause) ∨
      opening.inGroup = some (.error cause)) :
    opening.Concludes cluster spec limits cells
      ⟨exchanges, some (.error (.inventory cause)), (cells, last)⟩ := by
  constructor
  case ends => exact ⟨_, rfl⟩
  case ok_iff =>
    constructor
    · rintro ⟨running, same⟩
      cases same
    · rintro ⟨⟨session, isSession⟩, ⟨objects, isCluster⟩, members, isGroup⟩
      rw [isSession, isCluster, isGroup] at isCause
      rcases isCause with same | same | same <;> cases same
  case group => exact fun same => by cases same
  case failure =>
    intro failure same
    cases same
    exact ⟨rfl, cause, rfl, isCause⟩

/-- After the login and both lookups there is a provider with one group. -/
theorem Opening.concludes_success {opening : Opening} {limits : ResourceLimits}
    {inCluster inGroup : RefSet} {exchanges : List (Exchange (Targets.sum Http))}
    (isSession : opening.session = .ok session)
    (isCluster : opening.inCluster = some (.ok inCluster))
    (isGroup : opening.inGroup = some (.ok inGroup))
    (ofCluster : session.Carries (clusterTag cluster.name) opening.ofCluster inCluster)
    (ofGroup : session.Carries (groupTag spec.name) opening.ofGroup inGroup) :
    opening.Concludes cluster spec limits cells
      ⟨exchanges, some (.ok ⟨⟨limits, [⟨spec, cells.length⟩]⟩, cloner cluster session⟩),
        (cells ++ [(inCluster.intersect inGroup).members.length % Nat.pow 2 32], last)⟩ := by
  constructor
  case ends => exact ⟨_, rfl⟩
  case ok_iff =>
    exact ⟨fun _ => ⟨⟨_, isSession⟩, ⟨_, isCluster⟩, ⟨_, isGroup⟩⟩, fun _ => ⟨_, rfl⟩⟩
  case group =>
    intro running other objects members isRunning isOther isObjects isMembers
    cases isRunning
    cases isSession.symm.trans isOther
    cases isCluster.symm.trans isObjects
    cases isGroup.symm.trans isMembers
    refine ⟨ofCluster, ofGroup, fun few => ⟨rfl, ?_⟩⟩
    dsimp only
    rw [Nat.mod_eq_of_lt few]
  case failure => exact fun same => by cases same

/-- A login comes to an end. -/
theorem connect_ends (cluster : Cluster) (server : Handler Http σ) (state : σ) :
    ∃ login result middle, (connect cluster).run.transcript server state =
      ⟨login, some result, middle⟩ := by
  obtain ⟨login, result, middle, whole, -⟩ := (Vcenter.login_asks ("https://" ++ cluster.server)
    cluster.user cluster.password cluster.insecure cluster.apiTimeout).ends server state
  exact ⟨login, result, middle, whole⟩

/-- Without a session the login is all that happens. -/
theorem opening_refused (inOrder : options.InOrder cluster spec) {error : InventoryError}
    (refused : (connect cluster).run.transcript server state = ⟨login, some (.error error), middle⟩)
    (cells : List Nat) :
    let ending := options.start.run.transcript (Targets.answer.sum server) (cells, state)
    let opening : Opening := ⟨login, .error error, [], none, [], none⟩
    opening.Tells cluster spec (sent ending.exchanges) ∧
      opening.Concludes cluster spec options.limits cells ending := by
  intro ending opening
  obtain ⟨time, heard⟩ := Plan.hears_transcript server (connect cluster).run state
  rw [refused] at heard
  have whole : ending = _ := start_refused inOrder refused cells
  have isSent : sent ending.exchanges = login := by
    have onlyLogin := sent_map login []
    simpa [whole, sent] using onlyLogin
  constructor
  · constructor
    case sent => exact ⟨[], by simp [isSent, opening], .nil⟩
    case first =>
      rcases Vcenter.hears_login heard with ⟨isNone, -⟩ | ⟨request, reaction, isRequest, isLogin⟩
      · exact .inl ⟨isNone, error, rfl⟩
      · exact .inr ⟨request, reaction, isRequest, isLogin⟩
    case login => exact ⟨time, heard⟩
    case refused => exact fun _ => ⟨rfl, rfl, rfl, rfl⟩
    case cluster => exact fun same => by cases same
    case group => exact fun same => by cases same
    case reads => exact fun same => by cases same
  · rw [whole]
    exact Opening.concludes_failure (.inl rfl)

/-- What is sent when the login has succeeded: it, and the lookups of the size of the group. -/
theorem sent_connected (inOrder : options.InOrder cluster spec)
    (connected : (connect cluster).run.transcript server state = ⟨login, some (.ok session), middle⟩)
    {size : Except ProviderError Nat}
    (sized : ((cloner cluster session).size spec.name).run.transcript server middle =
      ⟨lookups, some size, last⟩) (cells : List Nat) :
    sent (options.start.run.transcript (Targets.answer.sum server) (cells, state)).exchanges =
      login ++ lookups := by
  cases size with
  | error error =>
    have noOthers := sent_map (login ++ lookups) []
    rw [start_unsized inOrder connected sized cells]
    simpa [sent] using noOthers
  | ok size =>
    rw [start_sized inOrder connected sized cells, sent_map]
    simp [sent, Exchange.right?]

/-- The login and the two lookups of a session are an opening. -/
theorem Opening.tells_connected {ofCluster ofGroup : List (Exchange Http)}
    {inCluster inGroup : Option (Except InventoryError RefSet)} {time forCluster forGroup : Duration}
    (heard : (connect cluster).run.Hears login time (some (.ok session)))
    (ofTag : (session.carriers (clusterTag cluster.name)).run.Hears ofCluster forCluster inCluster)
    (ofName : (session.carriers (groupTag spec.name)).run.Hears ofGroup forGroup inGroup)
    (merged : Merged ofCluster ofGroup lookups) :
    (⟨login, .ok session, ofCluster, inCluster, ofGroup, inGroup⟩ : Opening).Tells cluster spec
      (login ++ lookups) := by
  constructor
  case sent => exact ⟨lookups, rfl, merged⟩
  case first =>
    rcases Vcenter.hears_login heard with ⟨-, isNone⟩ | ⟨request, reaction, isRequest, isLogin⟩
    · exact absurd rfl (isNone session)
    · exact .inr ⟨request, reaction, isRequest, isLogin⟩
  case login => exact ⟨time, heard⟩
  case refused => exact fun same => by cases same
  case cluster =>
    intro other same
    cases same
    exact ⟨forCluster, ofTag⟩
  case group =>
    intro other same
    cases same
    exact ⟨forGroup, ofName⟩
  case reads =>
    intro other same
    cases same
    have reads : ∀ exchange ∈ ofCluster ++ ofGroup, session.LooksUp exchange.question :=
      List.forall_mem_append.2 ⟨(Vcenter.carriers_asks session _).hears ofTag,
        (Vcenter.carriers_asks session _).hears ofName⟩
    exact fun exchange isIn => ⟨reads exchange isIn, (reads exchange isIn).isChange_eq_false⟩

/-- With a session the two lookups follow. -/
theorem opening_connected (inOrder : options.InOrder cluster spec)
    (connected : (connect cluster).run.transcript server state = ⟨login, some (.ok session), middle⟩)
    (cells : List Nat) :
    let ending := options.start.run.transcript (Targets.answer.sum server) (cells, state)
    ∃ opening : Opening, opening.Tells cluster spec (sent ending.exchanges) ∧
      opening.Concludes cluster spec options.limits cells ending := by
  intro ending
  obtain ⟨time, heard⟩ := Plan.hears_transcript server (connect cluster).run state
  rw [connected] at heard
  obtain ⟨lookups, size, last, sized⟩ := Cloning.size_ends (Vcenter.session_lookups session)
    cluster.cloning spec.name server middle
  obtain ⟨taken, counted⟩ := Plan.hears_transcript server
    ((cloner cluster session).size spec.name).run middle
  rw [show ((cloner cluster session).size spec.name).run.transcript server middle = _ from sized]
    at counted
  obtain ⟨members, needed, found, isSize⟩ := Membership.hears_count counted
  obtain ⟨ofCluster, forCluster, inCluster, ofGroup, forGroup, inGroup, ofTag, ofName, merged, meets⟩ :=
    Membership.hears_members found
  refine ⟨⟨login, .ok session, ofCluster, inCluster, ofGroup, inGroup⟩, ?_, ?_⟩
  · rw [sent_connected inOrder connected sized cells]
    exact Opening.tells_connected heard ofTag ofName merged
  · cases meets with
    | ok inCluster inGroup =>
      cases isSize
      rw [show ending = _ from start_sized inOrder connected sized cells]
      exact Opening.concludes_success rfl rfl rfl (Vcenter.hears_carriers ofTag)
        (Vcenter.hears_carriers ofName)
    | cluster error inGroup =>
      cases isSize
      rw [show ending = _ from start_unsized inOrder connected sized cells]
      exact Opening.concludes_failure (.inr (.inl rfl))
    | group inCluster error =>
      cases isSize
      rw [show ending = _ from start_unsized inOrder connected sized cells]
      exact Opening.concludes_failure (.inr (.inr rfl))

/-- What is sent is the courses of the exchanges with the server. -/
theorem sent_courses {α : Type} (redirects : Redirects) (server : Handler Wire σ)
    (plan : Plan (Targets.sum Http) α) (cells : List Nat) (state : σ) :
    let ending := plan.transcript (Targets.answer.sum (redirects.client server.recorded))
      (cells, state, [])
    redirects.Courses (sent ending.exchanges) ending.state.2.2 := by
  intro ending
  have records := (redirects.records_client server).beside Targets.answer
  obtain ⟨own, isRecord, courses⟩ := records.transcript plan (cells, state, [])
  have isSent : (fun exchange : Exchange (Targets.sum Http) => exchange.right?.bind some) =
      Exchange.right? := funext fun exchange => Option.bind_fun_some _
  rw [isSent] at courses
  rw [show ending.state.2.2 = own from isRecord]
  exact courses

/-- **Starting up.** If something is wrong with what is given, the first flaw is reported and nothing
is sent, because `check` comes before the first request. Otherwise the first exchange is the login and
all others read tags or list objects, and there is a provider just if the login and the lookups of both
tags succeed. Its one group has as many members as both tags share, if these are fewer than `2 ^ 32`.

On the wire there is nothing but the courses of these exchanges; where a course leads beyond its own
request is up to the server. -/
theorem start_validates (options : StartOptions) (redirects : Redirects) (server : Handler Wire σ)
    (cells : List Nat) (state : σ) :
    let ending := options.start.run.transcript
      (Targets.answer.sum (redirects.client server.recorded)) (cells, state, [])
    (∀ error, options.Flaw error →
      ending = ⟨[], some (.error (.config error)), (cells, state, [])⟩) ∧
    ((¬∃ error, options.Flaw error) → ∃ cluster spec, options.InOrder cluster spec ∧
      ∃ opening : Opening, opening.Tells cluster spec (sent ending.exchanges) ∧
        opening.Concludes cluster spec options.limits cells ending ∧
        redirects.Courses (sent ending.exchanges) ending.state.2.2) := by
  intro ending
  refine ⟨fun error flaw => start_flaw flaw _ cells _, fun flawless => ?_⟩
  obtain ⟨cluster, spec, inOrder⟩ := (flaw_or_inOrder options).resolve_left flawless
  have courses := sent_courses redirects server options.start.run cells state
  obtain ⟨login, result, middle, connected⟩ :=
    connect_ends cluster (redirects.client server.recorded) (state, [])
  cases result with
  | error error =>
    obtain ⟨tells, concludes⟩ := opening_refused inOrder connected cells
    exact ⟨cluster, spec, inOrder, _, tells, concludes, courses⟩
  | ok session =>
    obtain ⟨opening, tells, concludes⟩ := opening_connected inOrder connected cells
    exact ⟨cluster, spec, inOrder, opening, tells, concludes, courses⟩

/-- A server that answers every request at once with the next of some bodies, and nothing after the
last one. -/
def reciting : Handler Http (List String)
  | _, [] => (.silence, [])
  | _, body :: later => (.response .zero ⟨200, body⟩, later)

/-- A cloud config without the name of a cluster. -/
def smallConfig : CloudConfig where
  path := "vsphere.toml"
  bytes := .ok (String.toUTF8
    "[global]\nserver='[::1]'\nuser='u'\npassword='p'\ntemplate='tmpl'\n").toList

/-- A start with the name of the cluster as an option, and one node group. -/
def small : StartOptions where
  config := some smallConfig
  clusterName := some "prod"
  specs := ["0:5:workers"]
  backend := none
  limits := .none

/-- What comes of the small start when a server gives some replies. -/
def smallEnding (replies : List WireReply) :
    Transcript (Targets.sum Http) (List Nat × List WireReply × List (Exchange Wire))
      (Except ProviderError Running) :=
  small.start.run.transcript
    (Targets.answer.sum ((Redirects.standard Redirects.wholeAddress).client replying.recorded))
    ([], replies, [])

/-- What a server may say when there are no tags yet. -/
def tagless : List WireReply := [.saying "\"token\"", .saying "[]", .saying "[]"]

/-- Against a server that lists no tags, a start with all settings succeeds. -/
theorem small_starts : ∃ cluster spec, small.InOrder cluster spec ∧ ∃ opening : Opening,
    opening.Succeeds ∧ opening.Tells cluster spec (sent (smallEnding tagless).exchanges) := by
  obtain ⟨-, begins⟩ := start_validates small (Redirects.standard Redirects.wholeAddress) replying []
    tagless
  have passes : small.check.isOk = true := by decide +kernel
  have flawless : ¬∃ error, small.Flaw error := by
    rintro ⟨error, flaw⟩
    rw [flaw.check] at passes
    cases passes
  have starts : ((smallEnding tagless).value.any Except.isOk) = true := by decide +kernel
  obtain ⟨cluster, spec, inOrder, opening, tells, concludes, -⟩ := begins flawless
  refine ⟨cluster, spec, inOrder, opening, concludes.ok_iff.1 ?_, tells⟩
  obtain ⟨result, isResult, isOk⟩ := (Option.any_eq_true _ _).1 starts
  cases result with
  | error error => cases isOk
  | ok running => exact ⟨running, isResult⟩

/-- What a server may say that has the tag of the cluster and moves the list of its objects to where
tags are attached. -/
def misleading : List WireReply :=
  [.saying "\"token\"", .saying "[\"c\"]",
    .saying "\x7b\"id\":\"c\",\"name\":\"k8s-cluster-prod\"\x7d",
    .moved 307 "https://[::1]/api/cis/tagging/tag-association/c?action=attach",
    .saying "[]", .saying "[]"]

/-- A redirect with status 307 repeats a request that lists objects where tags are attached, so a change
is on the wire, and the start succeeds. -/
theorem misled_starts : ((smallEnding misleading).value.any Except.isOk) = true ∧
    (smallEnding misleading).state.2.2.map (fun exchange => ScriptedServer.isChange exchange.question) =
      [false, false, false, false, true, false] := by
  decide +kernel

end StartOptions

end NodeScaler
