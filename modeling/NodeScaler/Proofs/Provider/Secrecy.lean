import NodeScaler.Proofs.Config.Flaws
import NodeScaler.Proofs.Provider.Operations
import NodeScaler.Proofs.Vcenter.Signing

/-!
# The password

Two runs that differ in the password alone cannot be told from each other, except by the signatures of
the login request and of the requests to which redirects of it lead. This holds for every program over
the connected cluster, every server whose replies do not depend on the values of signatures, and every
client library whose redirects keep signatures.

A server setting may name a user in front of the host. Then every request of a session is signed with
that user, the same way in both runs; otherwise no request behind those of the login is signed at all.
-/

namespace NodeScaler

open Plan (Asks)
open Redirects (Leads Parallel)
open Vcenter (Session addressHeaders credentials loginTo tokenTold withoutSlashes)

variable {α : Type} {allowed : HttpRequest → Prop}

/-! ## Servers -/

/-- A server: how it replies to a request after the requests before. -/
abbrev Server := List HttpRequest → HttpRequest → WireReply

namespace Server

variable {server : Server} {redirects : Redirects} {request other : HttpRequest}
  {first second received others : List HttpRequest}

/-- The server with the requests that it has received. -/
def handler (server : Server) : Handler Wire (List HttpRequest)
  | request, received => (server received request, received ++ [request])

/-- The replies of the server do not depend on the values of signatures. -/
def IsIndifferent (server : Server) : Prop :=
  ∀ received others request other,
    received.map HttpRequest.veiled = others.map HttpRequest.veiled →
      request.veiled = HttpRequest.veiled other → server received request = server others other

/-- Requests that are the same veiled are replied alike, and received. -/
theorem handler_alike (indifferent : server.IsIndifferent)
    (before : received.map HttpRequest.veiled = others.map HttpRequest.veiled)
    (alike : request.veiled = other.veiled) {reply : WireReply} {last : List HttpRequest}
    (replied : server.handler request received = (reply, last)) :
    last = received ++ [request] ∧ server.handler other others = (reply, others ++ [other]) ∧
      last.map HttpRequest.veiled = (others ++ [other]).map HttpRequest.veiled := by
  cases replied
  refine ⟨rfl, ?_, by simp [before, alike]⟩
  rw [handler, indifferent received others request other before alike]

/-- Related requests come to the same, and are led to related requests, if related requests are the same
veiled and each redirect leads to related requests again. -/
theorem pursue_parallel (redirects : Redirects) (indifferent : server.IsIndifferent)
    (related : HttpRequest → HttpRequest → Prop)
    (veils : ∀ {request other}, related request other → request.veiled = other.veiled)
    (leads : ∀ {request other} (response : HttpResponse) (location : Option String),
      related request other → Parallel related (redirects.step request response location)
        (redirects.step other response location))
    (left : Nat) (alike : related request other)
    (before : received.map HttpRequest.veiled = others.map HttpRequest.veiled) :
    ∃ reaction hops twins,
      redirects.pursue server.handler left request received = (reaction, received ++ request :: hops) ∧
      redirects.pursue server.handler left other others = (reaction, others ++ other :: twins) ∧
      redirects.Leads request hops ∧ redirects.Leads other twins ∧
      List.Forall₂ related hops twins := by
  fun_induction redirects.pursue server.handler left request received generalizing other others with
  | case1 left request received after last reply =>
    obtain ⟨rfl, twin, -⟩ := handler_alike indifferent before (veils alike) reply
    exact ⟨_, [], [], rfl, Redirects.pursue_broken twin left, .nil, .nil, .nil⟩
  | case2 left request received last reply =>
    obtain ⟨rfl, twin, -⟩ := handler_alike indifferent before (veils alike) reply
    exact ⟨_, [], [], rfl, Redirects.pursue_silence twin left, .nil, .nil, .nil⟩
  | case3 left request received after response location last reply answers =>
    obtain ⟨rfl, twin, -⟩ := handler_alike indifferent before (veils alike) reply
    have answersToo := (leads response location alike).answer_iff.1 answers
    exact ⟨_, [], [], rfl, Redirects.pursue_answer twin answersToo left, .nil, .nil, .nil⟩
  | case4 request received after response location last reply elsewhere =>
    obtain ⟨rfl, twin, -⟩ := handler_alike indifferent before (veils alike) reply
    have elsewhereToo := mt (leads response location alike).answer_iff.2 elsewhere
    rw [HttpRequest.url_of_veiled (veils alike)]
    exact ⟨_, [], [], rfl, Redirects.pursue_exhausted twin elsewhereToo, .nil, .nil, .nil⟩
  | case5 left request received after response location last reply address isForeign isLeft =>
    obtain ⟨rfl, twin, -⟩ := handler_alike indifferent before (veils alike) reply
    obtain ⟨left, rfl⟩ := Nat.exists_eq_succ_of_ne_zero isLeft
    have parallel := leads response location alike
    rw [isForeign] at parallel
    exact ⟨_, [], [], rfl, Redirects.pursue_foreign twin parallel.of_foreign left, .nil, .nil, .nil⟩
  | case6 request received after response location middle reply next left isNext reaction last goesOn
      inductionHypothesis =>
    obtain ⟨rfl, twin, between⟩ := handler_alike indifferent before (veils alike) reply
    have parallel := leads response location alike
    rw [isNext] at parallel
    obtain ⟨twinNext, isNextToo, alikeNext⟩ := parallel.of_request
    obtain ⟨found, hops, twins, same, goesOnToo, led, ledToo, allAlike⟩ :=
      inductionHypothesis alikeNext between
    rw [goesOn] at same
    cases same
    refine ⟨reaction.redirected after next.url, next :: hops, twinNext :: twins, ?_, ?_,
      .cons isNext led, .cons isNextToo ledToo, .cons alikeNext allAlike⟩
    · rw [List.append_assoc]
      rfl
    · rw [Redirects.pursue_followed twin isNextToo left, goesOnToo,
        HttpRequest.url_of_veiled (veils alikeNext), List.append_assoc]
      rfl

/-- Two states of the surroundings in which the server has received the same requests since. -/
def GoneOn (kept : HttpRequest → Prop) (first second : List HttpRequest)
    (state twin : Unit × List Nat × List HttpRequest) : Prop :=
  ∃ cells later, (∀ request ∈ later, kept request) ∧ state = ((), cells, first ++ later) ∧
    twin = ((), cells, second ++ later)

/-- A question is answered alike in such states, and leaves such states. -/
theorem goneOn_step (indifferent : server.IsIndifferent) {kept : HttpRequest → Prop}
    (keeps : ∀ request hops, allowed request → redirects.Leads request hops →
      ∀ sent ∈ request :: hops, kept sent)
    (alike : first.map HttpRequest.veiled = second.map HttpRequest.veiled)
    (question : (Resizing Http).Question)
    (isAllowed : NodeGroup.BesideLock (I := Http) allowed question)
    (state twin : Unit × List Nat × List HttpRequest) (goneOn : GoneOn kept first second state twin) :
    let host := redirects.client server.handler
    (NodeGroup.alone host question state).1 = (NodeGroup.alone host question twin).1 ∧
      GoneOn kept first second (NodeGroup.alone host question state).2
        (NodeGroup.alone host question twin).2 := by
  intro host
  obtain ⟨cells, later, areKept, rfl, rfl⟩ := goneOn
  rcases question with locking | target | request
  · exact ⟨rfl, cells, later, areKept, rfl, rfl⟩
  · exact ⟨rfl, (Targets.answer target cells).2, later, areKept, rfl, rfl⟩
  · have before : (first ++ later).map HttpRequest.veiled = (second ++ later).map HttpRequest.veiled := by
      rw [List.map_append, List.map_append, alike]
    obtain ⟨reaction, hops, twins, one, other, led, -, same⟩ :=
      pursue_parallel redirects indifferent Eq (fun same => same ▸ rfl)
        (fun response location same => same ▸ .same _) redirects.most (rfl : request = request) before
    rw [List.forall₂_eq_eq_eq] at same
    subst same
    have run : NodeGroup.alone host (.inr (.inr request)) ((), cells, first ++ later) =
        (reaction, (), cells, first ++ (later ++ request :: hops)) := by
      rw [← List.append_assoc]
      exact congrArg (fun ending : Reaction × List HttpRequest =>
        (ending.1, ((), cells, ending.2))) one
    have again : NodeGroup.alone host (.inr (.inr request)) ((), cells, second ++ later) =
        (reaction, (), cells, second ++ (later ++ request :: hops)) := by
      rw [← List.append_assoc]
      exact congrArg (fun ending : Reaction × List HttpRequest =>
        (ending.1, ((), cells, ending.2))) other
    rw [run, again]
    exact ⟨rfl, cells, later ++ request :: hops,
      List.forall_mem_append.2 ⟨areKept, keeps request hops isAllowed led⟩, rfl, rfl⟩

/-- A plan comes to the same value after histories that differ in signatures only, and asks the same
further requests. -/
theorem goneOn_run (indifferent : server.IsIndifferent) {kept : HttpRequest → Prop}
    (keeps : ∀ request hops, allowed request → redirects.Leads request hops →
      ∀ sent ∈ request :: hops, kept sent)
    (alike : first.map HttpRequest.veiled = second.map HttpRequest.veiled)
    {plan : Plan (Resizing Http) α}
    (asks : plan.Asks (NodeGroup.BesideLock (I := Http) allowed) True)
    (cells : List Nat) :
    let host := redirects.client server.handler
    let run := plan.transcript (NodeGroup.alone host) ((), cells, first)
    let again := plan.transcript (NodeGroup.alone host) ((), cells, second)
    run.value = again.value ∧ GoneOn kept first second run.state again.state := by
  have start : GoneOn kept first second ((), cells, first) ((), cells, second) :=
    ⟨cells, [], fun request isIn => absurd isIn List.not_mem_nil, by simp, by simp⟩
  exact asks.alike (goneOn_step indifferent keeps alike) start

end Server

/-! ## Two runs -/

/-- The file with another password. -/
def ClusterFile.withPassword (password : String) (file : ClusterFile) : ClusterFile :=
  { file with password := some password }

/-- The cluster with another password. -/
def Cluster.withPassword (password : String) (cluster : Cluster) : Cluster :=
  { cluster with password := password }

/-- What comes of a program over a cluster, from a server that has received nothing yet and a client
library with its redirects. -/
def Cluster.ending (cluster : Cluster) (redirects : Redirects) (server : Server)
    (program : Plan Operations α) (cells : List Nat) :
    Transcript (Resizing Http) (Unit × List Nat × List HttpRequest) (Except InventoryError α) :=
  (cluster.serve program).run.transcript (NodeGroup.alone (redirects.client server.handler))
    ((), cells, [])

/-- Two runs that cannot be told from each other, except by the signatures of the login and of what its
redirects lead to. They come to the same value and leave the same targets. -/
inductive Discreet (cluster other : Cluster) (redirects : Redirects)
    (run again : Transcript (Resizing Http) (Unit × List Nat × List HttpRequest)
      (Except InventoryError α)) : Prop where
  /-- The login cannot be sent, and nothing else is. -/
  | unsent (value : run.value = again.value) (targets : run.state.2.1 = again.state.2.1)
      (sent : run.state.2.2 = []) (sentToo : again.state.2.2 = [])
  /-- The server receives the login, signed with the credentials, and what its redirects lead to, which
  are the same requests veiled and have no other signatures. Then it receives the same requests in both
  runs, signed for nobody but the user in front of the host, if the server setting names one. -/
  | sent (login : HttpRequest) (hops twins later : List HttpRequest) (value : run.value = again.value)
      (targets : run.state.2.1 = again.state.2.1)
      (sent : run.state.2.2 =
        login.signed (credentials cluster.user cluster.password) :: hops ++ later)
      (sentToo : again.state.2.2 =
        login.signed (credentials other.user other.password) :: twins ++ later)
      (led : redirects.Leads (login.signed (credentials cluster.user cluster.password)) hops)
      (ledToo : redirects.Leads (login.signed (credentials other.user other.password)) twins)
      (alike : List.Forall₂ (fun hop twin => hop.veiled = twin.veiled) hops twins)
      (kept : ∀ hop ∈ hops, hop.signatures ⊆
        (login.signed (credentials cluster.user cluster.password)).signatures)
      (keptToo : ∀ twin ∈ twins, twin.signatures ⊆
        (login.signed (credentials other.user other.password)).signatures)
      (signed : login.signatures = addressHeaders login.url)
      (unnamed : '@' ∉ cluster.server.toList → login.signatures = [])
      (behind : ∀ request ∈ later, request.signatures ⊆ login.signatures)

/-! ## What follows a login -/

section

variable {I J K : Interface} {ε β : Type} {first : Attempt I ε β}
  {next : β → Attempt (K.sum (J.sum I)) ε α}

/-- If an attempt fails without asking anything, nothing follows it. -/
theorem Attempt.run_right_bind_error {error : ε} (fails : first.run = .done (.error error)) :
    (first.right.right >>= next).run = .done (.error error) := by
  change Plan.right (Plan.right first.run) >>= ExceptT.bindCont next = _
  rw [fails]
  rfl

/-- If an attempt asks something first, all that follows comes after the answer. -/
theorem Attempt.run_right_bind_ask {γ : Type} {question : I.Question}
    {told : I.Answer question → Attempt I ε γ} {make : γ → β}
    (asks : first.run = .ask question fun answer =>
      (told answer >>= fun value => pure (make value)).run) :
    (first.right.right >>= next).run = .ask (I := K.sum (J.sum I)) (.inr (.inr question))
      fun answer => ((told answer).right.right >>= fun value => next (make value)).run := by
  change Plan.right (Plan.right first.run) >>= ExceptT.bindCont next = _
  rw [asks]
  refine congrArg (Plan.ask (I := K.sum (J.sum I)) (.inr (.inr question))) (funext fun answer => ?_)
  change Plan.right (Plan.right ((told answer).run >>= ExceptT.bindCont fun value =>
    pure (make value))) >>= ExceptT.bindCont next = _
  rw [Plan.right_bind, Plan.right_bind, bind_assoc]
  refine bind_congr (m := Plan (K.sum (J.sum I))) fun result => ?_
  cases result <;> rfl

end

namespace Cluster

/-- What follows the login request of a program over a cluster. -/
def afterLogin (cluster : Cluster) (program : Plan Operations α) (url : Url) (reaction : Reaction) :
    Attempt (Resizing Http) InventoryError α := do
  let token ← (tokenTold cluster.user cluster.apiTimeout url reaction).right.right
  let session : Session := ⟨withoutSlashes ("https://" ++ cluster.server), token, cluster.insecure,
    cluster.apiTimeout⟩
  ExceptT.lift (program.through (Operation.perform cluster.cloning session.client))

/-- The request is one of a session with the server of the cluster. -/
def Owns (cluster : Cluster) (request : HttpRequest) : Prop :=
  ∃ session : Session, session.base = withoutSlashes ("https://" ++ cluster.server) ∧
    session.Makes request

/-- It asks nothing but such requests. -/
theorem afterLogin_asks (cluster : Cluster) (program : Plan Operations α) (url : Url)
    (reaction : Reaction) : (cluster.afterLogin program url reaction).run.Asks
      (NodeGroup.BesideLock (I := Http) cluster.Owns) True := by
  have token : (tokenTold cluster.user cluster.apiTimeout url reaction).run.Asks (I := Http)
      cluster.Owns True :=
    (Vcenter.tokenTold_asks _ _ url reaction).widen (fun _ => id) False.elim
  have inside : ((tokenTold cluster.user cluster.apiTimeout url reaction).right.right :
      Attempt (Resizing Http) _ _).run.Asks (NodeGroup.BesideLock cluster.Owns) True :=
    token.right.right
  refine inside.attempt fun value => ?_
  refine Asks.bind (Plan.asks_through (fun operation => ?_) program) fun _ => .done _
  let session : Session := ⟨withoutSlashes ("https://" ++ cluster.server), value,
    cluster.insecure, cluster.apiTimeout⟩
  have keeps := Vcenter.session_keeps session
  refine (operation.asks keeps cluster.cloning).widen ?_ id
  rintro (locking | target | request) isAllowed
  · trivial
  · trivial
  · exact ⟨session, rfl, isAllowed⟩

/-- Whatever the password is, a program over a cluster fails without asking anything, or it asks the
same login request, signed with the password, and goes on in the same way. -/
theorem serve_signed (cluster : Cluster) (program : Plan Operations α) :
    (∃ error, ∀ password, ((cluster.withPassword password).serve program).run =
      .done (.error error)) ∨
    ∃ url, Url.parse? (withoutSlashes ("https://" ++ cluster.server) ++ "/api/session") = some url ∧
      ∀ password, ((cluster.withPassword password).serve program).run =
        .ask (I := Resizing Http) (.inr (.inr ((loginTo url cluster.insecure).signed
          (credentials cluster.user password)))) fun reaction =>
            (cluster.afterLogin program url reaction).run := by
  rcases Vcenter.login_signed ("https://" ++ cluster.server) cluster.user cluster.insecure
    cluster.apiTimeout with ⟨error, fails⟩ | ⟨url, reads, asks⟩
  · exact .inl ⟨error, fun password => Attempt.run_right_bind_error (fails password)⟩
  · exact .inr ⟨url, reads, fun password => Attempt.run_right_bind_ask (asks password)⟩

/-- All requests of a session with the server have the signatures for the user in front of the host, as
the login has them. -/
theorem signatures_of_owns {cluster : Cluster} {url : Url} {request : HttpRequest}
    (reads : Url.parse? (withoutSlashes ("https://" ++ cluster.server) ++ "/api/session") = some url)
    (owns : cluster.Owns request) : request.signatures = addressHeaders url := by
  obtain ⟨session, isBase, makes⟩ := owns
  obtain ⟨path, address, isApi, readsToo, signatures⟩ := makes.signatures
  obtain ⟨user, -, same⟩ := Vcenter.exists_user cluster.server
  rw [isBase] at readsToo
  rw [signatures]
  exact Vcenter.addressHeaders_eq ((same _ _ isApi readsToo).trans (same _ _ (by decide) reads).symm)

/-- What comes of a program that asks a request first. -/
theorem ending_of_asks {cluster : Cluster} {program : Plan Operations α} {request : HttpRequest}
    {next : Reaction → Plan (Resizing Http) (Except InventoryError α)}
    (asks : (cluster.serve program).run = .ask (I := Resizing Http) (.inr (.inr request)) next)
    {redirects : Redirects} {server : Server} {reaction : Reaction} {received : List HttpRequest}
    (pursued : redirects.client server.handler request [] = (reaction, received)) (cells : List Nat) :
    let later := (next reaction).transcript (NodeGroup.alone (redirects.client server.handler))
      ((), cells, received)
    (cluster.ending redirects server program cells).value = later.value ∧
      (cluster.ending redirects server program cells).state = later.state := by
  let host := NodeGroup.alone (redirects.client server.handler)
  have answered : host (.inr (.inr request)) ((), cells, []) = (reaction, (), cells, received) :=
    congrArg (fun ending : Reaction × List HttpRequest => (ending.1, ((), cells, ending.2))) pursued
  have first : (Plan.ask (I := Resizing Http) (.inr (.inr request)) next).transcript host
      ((), cells, []) = ((next (host (.inr (.inr request)) ((), cells, [])).1).transcript host
        (host (.inr (.inr request)) ((), cells, [])).2).cons ⟨_, _⟩ := rfl
  rw [answered] at first
  unfold ending
  rw [asks, first]
  exact ⟨rfl, rfl⟩

/-- Two runs of a program over clusters that differ in the password alone cannot be told from each
other, except by the signatures of the login and of what its redirects lead to. -/
theorem ending_discreet {redirects : Redirects} (keeps : redirects.KeepsSignatures) {server : Server}
    (indifferent : server.IsIndifferent) (cluster : Cluster) (program : Plan Operations α)
    (cells : List Nat) (password other : String) :
    Discreet (cluster.withPassword password) (cluster.withPassword other) redirects
      ((cluster.withPassword password).ending redirects server program cells)
      ((cluster.withPassword other).ending redirects server program cells) := by
  rcases cluster.serve_signed program with ⟨error, fails⟩ | ⟨url, reads, asks⟩
  · unfold ending
    rw [fails, fails]
    exact .unsent rfl rfl rfl rfl
  · let login := loginTo url cluster.insecure
    let request (password : String) := login.signed (credentials cluster.user password)
    have alike : (request password).veiled = (request other).veiled := by
      rw [HttpRequest.veiled_signed, HttpRequest.veiled_signed]
    obtain ⟨reaction, hops, twins, one, two, led, ledToo, allAlike⟩ :=
      Server.pursue_parallel redirects indifferent
        (fun request other => request.veiled = other.veiled) (fun alike => alike)
        (fun response location alike => keeps.blind alike response location) redirects.most alike
        (rfl : ([] : List HttpRequest).map HttpRequest.veiled = [].map HttpRequest.veiled)
    have received : (request password :: hops).map HttpRequest.veiled =
        (request other :: twins).map HttpRequest.veiled := by
      have hopsAlike : hops.map HttpRequest.veiled = twins.map HttpRequest.veiled := by
        rw [← List.forall₂_eq_eq_eq, List.forall₂_map_left_iff, List.forall₂_map_right_iff]
        exact allAlike
      rw [List.map_cons, List.map_cons, alike, hopsAlike]
    have signatures : login.signatures = addressHeaders url := Vcenter.addressHeaders_signatures url
    -- Whatever the session asks, and whatever this is led to, has no signatures but those of the address.
    have ownSignatures (asked : HttpRequest) (hops : List HttpRequest) (owns : cluster.Owns asked)
        (led : redirects.Leads asked hops) :
        ∀ sent ∈ asked :: hops, sent.signatures ⊆ login.signatures := by
      rw [signatures, ← signatures_of_owns reads owns]
      exact List.forall_mem_cons.2 ⟨List.Subset.refl _, led.signatures keeps⟩
    -- Behind the requests of the login the two runs follow one plan.
    obtain ⟨isValue, isState⟩ := ending_of_asks (asks password) one cells
    obtain ⟨isOther, isTwin⟩ := ending_of_asks (asks other) two cells
    obtain ⟨sameValue, final, later, owned, leaves, leavesToo⟩ := Server.goneOn_run indifferent
      ownSignatures received (cluster.afterLogin_asks program url reaction) cells
    have state := isState.trans leaves
    have twin := isTwin.trans leavesToo
    refine .sent login hops twins later (isValue.trans (sameValue.trans isOther.symm)) ?_ ?_ ?_ led ledToo
      allAlike (led.signatures keeps) (ledToo.signatures keeps) signatures ?_ owned
    · rw [state, twin]
    · rw [state]
      rfl
    · rw [twin]
      rfl
    · exact fun unnamed =>
        signatures.trans (Vcenter.addressHeaders_unnamed unnamed (by decide) reads)

/-- A file is taken or refused alike with any password that is not blank. -/
theorem resolve_withPassword (file : ClusterFile) (nameOption : Option String)
    {password other : String} (nonBlank : Text.trim password ≠ "") (nonBlankToo : Text.trim other ≠ "") :
    resolve (file.withPassword other) nameOption =
      withPassword (Text.trim other) <$> resolve (file.withPassword password) nameOption := by
  have given {password : String} (nonBlank : Text.trim password ≠ "") :
      required "password" (some password) = .ok (Text.trim password) := by
    simp [required, Text.nonBlank?, nonBlank]
  simp only [resolve, ClusterFile.withPassword, given nonBlank, given nonBlankToo, map_bind, map_pure]
  rfl

/-- **Secrecy.** Of two files that differ in the password alone, and neither password is blank, both
are refused for the same reason, or both are taken. Then the configurations have the same text, and two
runs of any program over them come to the same value and send the same requests, but for the values of
the signatures of the login and of the requests to which redirects of it lead (`Discreet`). The server
must not answer by these values, and the redirects must keep signatures; `standard_keepsSignatures` says
so of the standard ones. -/
theorem passwords_kept (file : ClusterFile) (nameOption : Option String) {password other : String}
    (nonBlank : Text.trim password ≠ "") (nonBlankToo : Text.trim other ≠ "") {redirects : Redirects}
    (keeps : redirects.KeepsSignatures) {server : Server} (indifferent : server.IsIndifferent)
    (program : Plan Operations α) (cells : List Nat) :
    (∃ error, resolve (file.withPassword password) nameOption = .error error ∧
      resolve (file.withPassword other) nameOption = .error error) ∨
    ∃ cluster, resolve (file.withPassword password) nameOption = .ok cluster ∧
      let twin := cluster.withPassword (Text.trim other)
      resolve (file.withPassword other) nameOption = .ok twin ∧ cluster.text = twin.text ∧
        Discreet cluster twin redirects (cluster.ending redirects server program cells)
          (twin.ending redirects server program cells) := by
  have same := resolve_withPassword file nameOption nonBlank nonBlankToo
  cases resolved : resolve (file.withPassword password) nameOption with
  | error error =>
    rw [resolved] at same
    exact .inl ⟨error, rfl, same⟩
  | ok cluster =>
    rw [resolved] at same
    exact .inr ⟨cluster, rfl, same, rfl,
      cluster.ending_discreet keeps indifferent program cells cluster.password (Text.trim other)⟩

/-- A program that looks up one tag. -/
def oneLookup : Plan Operations (Except InventoryError RefSet) :=
  .ask (I := Operations) (.inventory (.resolve "k8s-cluster-prod")) fun found => .done found

/-- A server that moves the login to another address of its host, lets everybody in there, and tells
nothing else. -/
def moving : Server
  | [], _ => .response .zero ⟨307, ""⟩ (some "https://[::1]/api/login")
  | _ :: _, _ => .response .zero ⟨200, "\"token\""⟩ none

/-- It does not look at requests. -/
theorem moving_isIndifferent : moving.IsIndifferent := by
  intro received others request other alike _
  cases received with
  | nil =>
    obtain rfl := List.map_eq_nil_iff.1 alike.symm
    rfl
  | cons first received =>
    cases others with
    | nil => cases alike
    | cons second others => rfl

/-- A file for a server at home. -/
def homeFile : ClusterFile :=
  { ClusterFile.empty with
    server := some "[::1]"
    user := some "u"
    template := some "tmpl" }

/-- Two passwords for a server at home are kept, while the login is moved and a request is sent behind
it. -/
theorem home_passwords_kept : ∃ cluster,
    resolve (homeFile.withPassword "p") (some "prod") = .ok cluster ∧
      let redirects := Redirects.standard Redirects.wholeAddress
      (cluster.ending redirects moving oneLookup []).state.2.2.length = 3 ∧
      Discreet cluster (cluster.withPassword "q") redirects
        (cluster.ending redirects moving oneLookup [])
        ((cluster.withPassword "q").ending redirects moving oneLookup []) := by
  have sends : (resolve (homeFile.withPassword "p") (some "prod")).toOption.map (fun cluster =>
      (cluster.ending (Redirects.standard Redirects.wholeAddress) moving oneLookup []).state.2.2.length) =
        some 3 := by
    decide +kernel
  have kept := @passwords_kept _ homeFile (some "prod") "p" "q" (by decide +kernel)
    (by decide +kernel) _ (Redirects.standard_keepsSignatures Redirects.wholeAddress) moving
    moving_isIndifferent oneLookup []
  rcases kept with ⟨error, refused, -⟩ | ⟨cluster, taken, -, -, discreet⟩
  · rw [refused] at sends
    cases sends
  · rw [taken] at sends
    exact ⟨cluster, taken, Option.some.inj sends, discreet⟩

/-- A cluster whose server setting names a user. -/
def foreignCluster : Cluster where
  name := "prod"
  server := "u:p@[::1]"
  user := "v"
  password := "secret"
  insecure := true
  datacenter := ""
  resourcePool := ""
  template := "tmpl"
  cloneTimeout := .seconds 600
  apiTimeout := .seconds 30

/-- The login is moved, so two requests have the credentials; and the server setting names a user, so the
request behind them is signed too, although the server does not look at signatures. -/
theorem foreign_request_signed : moving.IsIndifferent ∧
    let sent := (foreignCluster.ending (Redirects.standard Redirects.wholeAddress) moving oneLookup
      []).state.2.2
    sent.map (fun request => request.signatures.map Prod.snd) = [["Basic dTpw", "Basic djpzZWNyZXQ="],
      ["Basic dTpw", "Basic djpzZWNyZXQ="], ["Basic dTpw"]] :=
  ⟨moving_isIndifferent, by decide +kernel⟩

end Cluster

end NodeScaler
