import NodeScaler.Cli.Run
import NodeScaler.Proofs.Provider.Increasing
import NodeScaler.Proofs.Provider.Starting
import NodeScaler.Proofs.Provider.Adding
import NodeScaler.Proofs.Vcenter.Making

/-!
# Scaling up from the command line

A run that is to add nodes starts up, counts the members of the group, reads their names, and tries at
machines. It is reported as a success just if all of this went well and each trial that was not passed
over has led to a machine that was cloned in time and carries both tags, as many as were asked for. In
every other case it is reported as a failure, whatever the server does.
-/

namespace NodeScaler.Cli

open Cloning (Enough Tries counted mostCollisions nextNumber stem)
open StartOptions (cloner connect sent)
open Vcenter (Session)

variable {σ : Type} {environment : Environment} {texts : List String} {arguments : Arguments}
  {delta : Int} {server : Handler Http σ} {cells : List Nat} {state : σ}

/-- The requests to the server among what a run asks, each with what came of it. -/
def requests (exchanges : List (Exchange (Resizing Http))) : List (Exchange Http) :=
  sent (exchanges.filterMap Exchange.right?)

/-- A group has been enlarged by as many machines as were asked for. -/
inductive Enlarged (cluster : Cluster) (spec : GroupSpec) (session : Session) (delta : Int)
    (server : Handler Http σ) (state : σ) : List (Exchange Http) → Prop where
  /-- The number makes sense, the group stays small enough, the names of its members could be read, and
  just the trials that count, which are as many as were asked for, have come to complete machines. -/
  | intro {live : Nat} {names : List String} {sizing naming : List (Exchange Http)}
      {entries : List (Cloning.Trial × List (Exchange Http))} {sized named last : σ}
      (positive : 0 < delta)
      (counts : ((cloner cluster session).size spec.name).run.transcript server state =
        ⟨sizing, some (.ok live), sized⟩)
      (room : live + delta.toNat ≤ spec.maxSize)
      (reads : (cluster.cloning.names session.client spec.name).run.transcript server sized =
        ⟨naming, some (.ok names), named⟩)
      (tries : Tries cluster.cloning session.client spec.name server
        (nextNumber (stem cluster.name spec.name) names) named entries last)
      (enough : Enough mostCollisions delta.toNat (entries.map Prod.fst))
      (completed : ∀ entry ∈ entries, entry.1 ∈ counted mostCollisions (entries.map Prod.fst) ↔
        session.Completes cluster.cloning spec.name
          (Cloning.machineName cluster.name spec.name entry.1.number) entry.2) :
      Enlarged cluster spec session delta server state
        (sizing ++ (naming ++ entries.flatMap Prod.snd))

/-- All went well from the start to the last machine. -/
inductive ScaledUp (options : StartOptions) (delta : Int) (server : Handler Http σ) (state : σ) :
    List (Exchange Http) → Prop where
  /-- All was in order with what was given, the login and the first look at the group succeeded, and
  the group was enlarged. -/
  | intro {cluster : Cluster} {spec : GroupSpec} {session : Session} {size : Nat}
      {login opening growing : List (Exchange Http)} {connected started : σ}
      (inOrder : options.InOrder cluster spec)
      (logsIn : (connect cluster).run.transcript server state =
        ⟨login, some (.ok session), connected⟩)
      (starts : ((cloner cluster session).size spec.name).run.transcript server connected =
        ⟨opening, some (.ok size), started⟩)
      (enlarged : Enlarged cluster spec session delta server started growing) :
      ScaledUp options delta server state (login ++ opening ++ growing)

/-! ## What is reported -/

/-- The report on what carrying out a command has come to. -/
def reportOf (arguments : Arguments) : Except Failure String → RunEnding
  | .ok output => ⟨0, output, none, arguments.logJson⟩
  | .error failure => ⟨1, "", some (failureLine arguments.logJson failure), arguments.logJson⟩

/-- A resize that has been carried out is reported as a success, and one that has not as a failure. -/
theorem exitCode_reportOf (arguments : Arguments) (change : ProviderError → Failure)
    (result : Except ProviderError Unit) :
    let report := reportOf arguments ((fun _ => "") <$> result.mapError change)
    report.exitCode = 0 ∧ result = .ok () ∨ report.exitCode = 1 ∧ result ≠ .ok () := by
  cases result with
  | error error => exact .inr ⟨rfl, fun same => by cases same⟩
  | ok => exact .inl ⟨rfl, rfl⟩

/-- A run reports what carrying out its command has come to. -/
theorem run_transcript {I : Type} {handler : Handler (Resizing Http) I} {first last : I}
    {exchanges : List (Exchange (Resizing Http))} {result : Except Failure String}
    (invokes : Invocation.ofArguments texts = .run arguments)
    (executes : (execute environment arguments).run.transcript handler first =
      ⟨exchanges, some result, last⟩) :
    (run environment texts).transcript handler first =
      ⟨exchanges, some (reportOf arguments result), last⟩ := by
  unfold run
  rw [invokes]
  dsimp only
  rw [Plan.transcript_bind _ (congrArg Transcript.value executes), executes]
  cases result <;> simp [reportOf]

/-- A start that fails is the end of a run. -/
theorem execute_unstarted {begun : List (Exchange (Targets.sum Http))} {error : ProviderError}
    {last : List Nat × σ}
    (fails : (options environment arguments).start.run.transcript (Targets.answer.sum server)
      (cells, state) = ⟨begun, some (.error error), last⟩) :
    (execute environment arguments).run.transcript (NodeGroup.alone server) ((), cells, state) =
      ⟨begun.map .onRight, some (.error (during "failed to create vsphere cloud provider" error)),
        ((), last)⟩ := by
  have seen := Plan.transcript_mapError fails (during "failed to create vsphere cloud provider")
  exact Plan.transcript_attempt_stops (Plan.transcript_right_attempt seen Locking.uncontended ())

/-- With a provider, adding nodes to its one group decides what a run comes to. -/
theorem execute_started {begun : List (Exchange (Targets.sum Http))}
    {resized : List (Exchange (Resizing Http))} {group : NodeGroup} {limits : ResourceLimits}
    {provisioner : Provisioner Http} {middle last : List Nat × σ} {result : Except ProviderError Unit}
    (isScaleUp : arguments.command = .scaleUp delta)
    (starts : (options environment arguments).start.run.transcript (Targets.answer.sum server)
      (cells, state) = ⟨begun, some (.ok ⟨⟨limits, [group]⟩, provisioner⟩), middle⟩)
    (increases : (group.increase provisioner delta).run.transcript (NodeGroup.alone server)
      ((), middle) = ⟨resized, some result, ((), last)⟩) :
    (execute environment arguments).run.transcript (NodeGroup.alone server) ((), cells, state) =
      ⟨begun.map .onRight ++ resized, some ((fun _ => "") <$> result.mapError
        (during s!"could not increase size of {group.spec.name}")), ((), last)⟩ := by
  have begins := Plan.transcript_right_attempt
    (Plan.transcript_mapError starts (during "failed to create vsphere cloud provider"))
    Locking.uncontended ()
  have seen := Plan.transcript_mapError increases
    (during s!"could not increase size of {group.spec.name}")
  refine Plan.transcript_attempt_then begins ?_
  rw [isScaleUp]
  cases result with
  | error error => exact Plan.transcript_attempt_stops seen
  | ok =>
    rw [← List.append_nil resized]
    exact Plan.transcript_attempt_then seen rfl

/-- What is asked besides requests is not sent. -/
theorem requests_started (begun resized : List (Exchange (Targets.sum Http))) :
    requests (begun.map .onRight ++
      ⟨.inl .acquire, ()⟩ :: (resized.map .onRight ++ [⟨.inl .release, ()⟩])) =
        sent begun ++ sent resized := by
  have right (exchanges : List (Exchange (Targets.sum Http))) :
      (exchanges.map Exchange.onRight).filterMap (Exchange.right? (I := Locking)) = exchanges := by
    rw [List.filterMap_map]
    exact List.filterMap_some
  simp only [requests, sent, List.filterMap_append, right, List.filterMap_cons, List.filterMap_nil,
    Exchange.right?, List.append_nil]

/-- With a provider, a run reports what resizing its one group has come to. -/
theorem run_started {begun resized : List (Exchange (Targets.sum Http))} {group : NodeGroup}
    {limits : ResourceLimits} {provisioner : Provisioner Http} {middle : List Nat} {between : σ}
    {last : List Nat × σ} {result : Except ProviderError Unit}
    (invokes : Invocation.ofArguments texts = .run arguments)
    (isScaleUp : arguments.command = .scaleUp delta)
    (starts : (options environment arguments).start.run.transcript (Targets.answer.sum server)
      (cells, state) = ⟨begun, some (.ok ⟨⟨limits, [group]⟩, provisioner⟩), (middle, between)⟩)
    (resizes : (group.resize provisioner delta).run.transcript (Targets.answer.sum server)
      (middle, between) = ⟨resized, some result, last⟩) :
    ∃ exchanges report last, (run environment texts).transcript (NodeGroup.alone server)
        ((), cells, state) = ⟨exchanges, some report, last⟩ ∧
      requests exchanges = sent begun ++ sent resized ∧
      (report.exitCode = 0 ∧ result = .ok () ∨ report.exitCode = 1 ∧ result ≠ .ok ()) := by
  have executes := execute_started isScaleUp starts (NodeGroup.increase_transcript resizes)
  exact ⟨_, _, _, run_transcript invokes executes, requests_started begun resized,
    exitCode_reportOf arguments _ result⟩

/-! ## What a resize comes to -/

/-- What is sent in a resize: lookups of the size, and what it takes to make machines. -/
theorem sent_resize (group : NodeGroup) (sizing making : List (Exchange Http)) (previous raised : Nat)
    (corrections : List Nat) :
    sent (sizing.map .onRight ++ ⟨.inl (.read group.cell), previous⟩ :: group.writes raised ::
      (making.map .onRight ++ corrections.map group.writes)) = sizing ++ making := by
  have none : (corrections.map (group.writes (I := Http))).filterMap Exchange.right? = [] := by
    simp [NodeGroup.writes, Exchange.right?]
  have one : sent (making.map .onRight ++ corrections.map group.writes) = making := by
    rw [StartOptions.sent_map, sent, none, List.append_nil]
  rw [StartOptions.sent_map]
  exact congrArg (sizing ++ ·) one

/-- A call for machines is well just if the trials that count are those that have come to complete
machines. -/
theorem result_tally_eq_ok_iff_completed {session : Session} {cloning : Cloning} {group : String}
    {number count : Nat} {last : σ} {entries : List (Cloning.Trial × List (Exchange Http))}
    (tries : Tries cloning session.client group server number state entries last) :
    (Cloning.tally cloning group (counted mostCollisions (entries.map Prod.fst))).result count =
        .ok () ↔
      ∀ entry ∈ entries, entry.1 ∈ counted mostCollisions (entries.map Prod.fst) ↔
        session.Completes cloning group (Cloning.machineName cloning.cluster group entry.1.number)
          entry.2 := by
  let complete (number : Nat) (own : List (Exchange Http)) : Prop :=
    session.Completes cloning group (Cloning.machineName cloning.cluster group number) own
  have tagged : ∀ entry ∈ entries, entry.1.fate.isTagged = true ↔ complete entry.1.number entry.2 := by
    refine @Tries.forall _ _ _ _ _ _ (fun number fate own => fate.isTagged = true ↔ complete number own)
      _ _ _ _ tries fun {number fate own state middle} made => ?_
    obtain ⟨same, other, last, whole, isTagged⟩ := Vcenter.make_ends session cloning group
      (Cloning.machineName cloning.cluster group number) server state
    rw [made] at whole
    injection whole with sameOwn sameResult
    rw [fate.isTagged_iff, Option.some.inj sameResult, ← other.isTagged_iff, sameOwn]
    exact isTagged
  rw [Cloning.result_tally_eq_ok_iff, Cloning.counted_tagged_iff, List.forall_mem_map]
  exact forall₂_congr fun entry isIn => iff_congr Iff.rfl (tagged entry isIn)

/-- In a group that is small enough, making machines decides what a resize comes to. -/
theorem resize_created {cluster : Cluster} {spec : GroupSpec} {session : Session}
    {sizing making : List (Exchange Http)} {live : Nat} {sized last : σ}
    {result : Except ProviderError Unit} (positive : 0 < delta)
    (counts : ((cloner cluster session).size spec.name).run.transcript server state =
      ⟨sizing, some (.ok live), sized⟩) (room : live + delta.toNat ≤ spec.maxSize)
    (created : ((cloner cluster session).create spec.name delta.toNat).run.transcript server sized =
      ⟨making, some result, last⟩) (cells : List Nat) (cell : Nat) :
    ∃ resized after, (NodeGroup.resize ⟨spec, cell⟩ (cloner cluster session) delta).run.transcript
        (Targets.answer.sum server) (cells, state) = ⟨resized, some result, after⟩ ∧
      sent resized = sizing ++ making := by
  let group : NodeGroup := ⟨spec, cell⟩
  have whole := NodeGroup.resize_made group cells positive counts room created
  exact ⟨_, _, whole, sent_resize group _ _ _ _ _⟩

/-- Making a machine comes to an end. -/
theorem make_ends (session : Session) (cloning : Cloning) (group : String) (server : Handler Http σ)
    (number : Nat) (state : σ) : ∃ own, ∃ fate : Cloning.Fate, ∃ middle,
      (cloning.make session.client group (Cloning.machineName cloning.cluster group number)).run.transcript
        server state = ⟨own, some fate.result, middle⟩ := by
  obtain ⟨own, fate, middle, whole, -⟩ := Vcenter.make_ends session cloning group
    (Cloning.machineName cloning.cluster group number) server state
  exact ⟨own, fate, middle, whole⟩

/-- For a group to be enlarged, its size and the names of its members must be had. -/
theorem Enlarged.stages {cluster : Cluster} {spec : GroupSpec} {session : Session}
    {growing : List (Exchange Http)}
    (enlarged : Enlarged cluster spec session delta server state growing) :
    0 < delta ∧ ∃ sizing live sized,
      ((cloner cluster session).size spec.name).run.transcript server state =
        ⟨sizing, some (.ok live), sized⟩ ∧ live + delta.toNat ≤ spec.maxSize ∧
      ∃ naming names named, (cluster.cloning.names session.client spec.name).run.transcript server
        sized = ⟨naming, some (.ok names), named⟩ := by
  obtain ⟨positive, counts, room, reads, -⟩ := enlarged
  exact ⟨positive, _, _, _, counts, room, _, _, _, reads⟩

/-- When the size of the group and the names of its members are had, the trials decide. -/
theorem enlarged_iff {cluster : Cluster} {spec : GroupSpec} {session : Session} {live : Nat}
    {names : List String} {sizing naming : List (Exchange Http)}
    {entries : List (Cloning.Trial × List (Exchange Http))} {sized named last : σ} (positive : 0 < delta)
    (counts : ((cloner cluster session).size spec.name).run.transcript server state =
      ⟨sizing, some (.ok live), sized⟩)
    (room : live + delta.toNat ≤ spec.maxSize)
    (reads : (cluster.cloning.names session.client spec.name).run.transcript server sized =
      ⟨naming, some (.ok names), named⟩)
    (tries : Tries cluster.cloning session.client spec.name server
      (nextNumber (stem cluster.name spec.name) names) named entries last)
    (enough : Enough mostCollisions delta.toNat (entries.map Prod.fst)) :
    Enlarged cluster spec session delta server state
        (sizing ++ (naming ++ entries.flatMap Prod.snd)) ↔
      (Cloning.tally cluster.cloning spec.name (counted mostCollisions (entries.map Prod.fst))).result
        delta.toNat = .ok () := by
  have created := Cloning.create_named reads tries enough
  constructor
  · generalize sizing ++ (naming ++ entries.flatMap Prod.snd) = grown
    rintro ⟨-, isSize, -, isNames, others, isEnough, completed⟩
    rw [counts] at isSize
    cases isSize
    rw [reads] at isNames
    cases isNames
    -- The trials that are told of may be others, but the call for machines comes to one result.
    have createdToo := Cloning.create_named reads others isEnough
    rw [created] at createdToo
    have sameResult := Option.some.inj (congrArg Transcript.value createdToo)
    exact sameResult.trans ((result_tally_eq_ok_iff_completed others).2 completed)
  · intro isOk
    exact .intro positive counts room reads tries enough
      ((result_tally_eq_ok_iff_completed tries).1 isOk)

/-- A resize comes to an end, and it is well just if the group has been enlarged. -/
theorem resize_ends (cluster : Cluster) (spec : GroupSpec) (session : Session) (delta : Int)
    (server : Handler Http σ) (cells : List Nat) (cell : Nat) (state : σ) :
    ∃ resized result last, (NodeGroup.resize ⟨spec, cell⟩ (cloner cluster session) delta).run.transcript
        (Targets.answer.sum server) (cells, state) = ⟨resized, some result, last⟩ ∧
      (result = .ok () ↔ Enlarged cluster spec session delta server state (sent resized)) := by
  by_cases positive : 0 < delta
  case neg =>
    have whole := NodeGroup.resize_senseless server ⟨spec, cell⟩ (cloner cluster session) cells state
      (Int.not_lt.1 positive)
    refine ⟨_, _, _, whole, iff_of_false (fun same => by cases same) ?_⟩
    exact fun enlarged => positive enlarged.stages.1
  obtain ⟨sizing, size, sized, counts⟩ : ∃ sizing size sized,
      ((cloner cluster session).size spec.name).run.transcript server state =
        ⟨sizing, some size, sized⟩ :=
    Cloning.size_ends (Vcenter.session_lookups session) cluster.cloning spec.name server state
  cases size with
  | error error =>
    have whole := NodeGroup.resize_unsized ⟨spec, cell⟩ cells positive counts
    refine ⟨_, _, _, whole, iff_of_false (fun same => by cases same) ?_⟩
    intro enlarged
    obtain ⟨-, other, live, between, isSize, -⟩ := enlarged.stages
    rw [counts] at isSize
    cases isSize
  | ok live =>
    by_cases room : live + delta.toNat ≤ spec.maxSize
    case neg =>
      have whole := NodeGroup.resize_tooMany ⟨spec, cell⟩ cells positive counts
        (Nat.not_le.1 room)
      refine ⟨_, _, _, whole, iff_of_false (fun same => by cases same) ?_⟩
      intro enlarged
      obtain ⟨-, other, size, between, isSize, isRoom, -⟩ := enlarged.stages
      rw [counts] at isSize
      cases isSize
      exact room isRoom
    obtain ⟨naming, result, named, reads⟩ := Cloning.names_ends (Vcenter.session_lookups session)
      cluster.cloning spec.name server sized
    cases result with
    | error error =>
      have created := Cloning.create_unnamed reads delta.toNat
      obtain ⟨resized, after, whole, -⟩ := resize_created positive counts room created cells cell
      refine ⟨_, _, _, whole, iff_of_false (fun same => by cases same) ?_⟩
      intro enlarged
      obtain ⟨-, other, size, between, isSize, -, told, names, later, isNames⟩ := enlarged.stages
      rw [counts] at isSize
      cases isSize
      rw [reads] at isNames
      cases isNames
    | ok names =>
      obtain ⟨entries, last, tries, enough⟩ := Cloning.tries_enough
        (make_ends session cluster.cloning spec.name server) delta.toNat mostCollisions
        (nextNumber (stem cluster.name spec.name) names) named
      have created := Cloning.create_named reads tries enough
      obtain ⟨resized, after, whole, isSent⟩ := resize_created positive counts room created cells cell
      refine ⟨_, _, _, whole, ?_⟩
      rw [isSent]
      exact (enlarged_iff positive counts room reads tries enough).symm

/-! ## The whole run -/

/-- For a group to be enlarged from the command line, the start must succeed. -/
theorem ScaledUp.stages {options : StartOptions} {exchanges : List (Exchange Http)}
    (scaledUp : ScaledUp options delta server state exchanges) :
    ∃ cluster spec, options.InOrder cluster spec ∧
      ∃ login session connected, (connect cluster).run.transcript server state =
        ⟨login, some (.ok session), connected⟩ ∧
      ∃ opening size started, ((cloner cluster session).size spec.name).run.transcript server connected =
        ⟨opening, some (.ok size), started⟩ ∧
      ∃ growing, exchanges = login ++ opening ++ growing ∧
        Enlarged cluster spec session delta server started growing := by
  obtain ⟨inOrder, logsIn, starts, enlarged⟩ := scaledUp
  exact ⟨_, _, inOrder, _, _, _, logsIn, _, _, _, starts, _, rfl, enlarged⟩

/-- After a start that succeeds, it is left to enlarge the group. -/
theorem scaledUp_iff {options : StartOptions} {cluster : Cluster} {spec : GroupSpec} {session : Session}
    {size : Nat} {login opening growing : List (Exchange Http)} {connected started : σ}
    (inOrder : options.InOrder cluster spec)
    (logsIn : (connect cluster).run.transcript server state =
      ⟨login, some (.ok session), connected⟩)
    (starts : ((cloner cluster session).size spec.name).run.transcript server connected =
      ⟨opening, some (.ok size), started⟩) :
    ScaledUp options delta server state (login ++ opening ++ growing) ↔
      Enlarged cluster spec session delta server started growing := by
  constructor
  · intro scaledUp
    obtain ⟨other, another, inOrderToo, told, other, between, isIn, tellsSize, found, later,
      isSize, others, sameSent, enlarged⟩ := scaledUp.stages
    obtain ⟨rfl, rfl⟩ := inOrder.unique inOrderToo
    rw [logsIn] at isIn
    cases isIn
    rw [starts] at isSize
    cases isSize
    rw [List.append_cancel_left_eq] at sameSent
    exact sameSent ▸ enlarged
  · exact fun enlarged => .intro inOrder logsIn starts enlarged

/-- A run whose start fails reports a failure. -/
theorem run_unstarted {begun : List (Exchange (Targets.sum Http))} {error : ProviderError}
    {last : List Nat × σ} (invokes : Invocation.ofArguments texts = .run arguments)
    (fails : (options environment arguments).start.run.transcript (Targets.answer.sum server)
      (cells, state) = ⟨begun, some (.error error), last⟩) :
    ∃ report, ((run environment texts).transcript (NodeGroup.alone server) ((), cells, state)).value =
      some report ∧ report.exitCode = 1 := by
  rw [run_transcript invokes (execute_unstarted fails)]
  exact ⟨_, rfl, rfl⟩

/-- A run that is to add nodes reports a success or a failure, and a success just if everything went
well. -/
theorem run_ends (invokes : Invocation.ofArguments texts = .run arguments)
    (isScaleUp : arguments.command = .scaleUp delta) (environment : Environment)
    (server : Handler Http σ) (cells : List Nat) (state : σ) :
    let ending := (run environment texts).transcript (NodeGroup.alone server) ((), cells, state)
    ∃ report, ending.value = some report ∧ (report.exitCode = 0 ∨ report.exitCode = 1) ∧
      (report.exitCode = 0 ↔
        ScaledUp (options environment arguments) delta server state (requests ending.exchanges)) := by
  intro ending
  have fails {begun : List (Exchange (Targets.sum Http))} {error : ProviderError}
      {last : List Nat × σ} (unstarted : (options environment arguments).start.run.transcript
        (Targets.answer.sum server) (cells, state) = ⟨begun, some (.error error), last⟩)
      (notUp : ∀ exchanges, ¬ScaledUp (options environment arguments) delta server state exchanges) :
      ∃ report, ending.value = some report ∧ (report.exitCode = 0 ∨ report.exitCode = 1) ∧
        (report.exitCode = 0 ↔
          ScaledUp (options environment arguments) delta server state (requests ending.exchanges)) := by
    obtain ⟨report, isReport, isFailure⟩ := run_unstarted invokes unstarted
    refine ⟨report, isReport, .inr isFailure, iff_of_false ?_ (notUp _)⟩
    rw [isFailure]
    exact Nat.one_ne_zero
  rcases StartOptions.flaw_or_inOrder (options environment arguments) with
    ⟨error, flaw⟩ | ⟨cluster, spec, inOrder⟩
  · refine fails (StartOptions.start_flaw flaw server cells state) fun exchanges scaledUp => ?_
    obtain ⟨cluster, spec, inOrder, -⟩ := scaledUp.stages
    cases flaw.check.symm.trans inOrder.check
  obtain ⟨login, result, connected, logsIn⟩ := StartOptions.connect_ends cluster server state
  cases result with
  | error error =>
    refine fails (StartOptions.start_refused inOrder logsIn cells) fun exchanges scaledUp => ?_
    obtain ⟨other, another, inOrderToo, told, session, between, isIn, -⟩ := scaledUp.stages
    obtain ⟨rfl, rfl⟩ := inOrder.unique inOrderToo
    rw [logsIn] at isIn
    cases isIn
  | ok session =>
    obtain ⟨opening, size, started, starts⟩ : ∃ opening size started,
        ((cloner cluster session).size spec.name).run.transcript server connected =
          ⟨opening, some size, started⟩ :=
      Cloning.size_ends (Vcenter.session_lookups session) cluster.cloning spec.name server connected
    cases size with
    | error error =>
      refine fails (StartOptions.start_unsized inOrder logsIn starts cells) fun exchanges scaledUp => ?_
      obtain ⟨other, another, inOrderToo, told, other, between, isIn, tellsSize, size, later, isSize,
        -⟩ := scaledUp.stages
      obtain ⟨rfl, rfl⟩ := inOrder.unique inOrderToo
      rw [logsIn] at isIn
      cases isIn
      rw [starts] at isSize
      cases isSize
    | ok size =>
      obtain ⟨resized, result, last, resizes, isOk⟩ := resize_ends cluster spec session delta server
        (cells ++ [size]) cells.length started
      obtain ⟨exchanges, report, final, whole, isSent, isCode⟩ := run_started invokes isScaleUp
        (StartOptions.start_sized inOrder logsIn starts cells) resizes
      have begun : sent ((login ++ opening).map .onRight ++
          [⟨.inl (.create size), cells.length⟩]) = login ++ opening := by
        rw [StartOptions.sent_map]
        exact List.append_nil _
      rw [begun] at isSent
      have isUp : ScaledUp (options environment arguments) delta server state (requests exchanges) ↔
          result = .ok () := by
        rw [isOk, isSent]
        exact scaledUp_iff inOrder logsIn starts
      rw [show ending = _ from whole]
      refine ⟨report, rfl, isCode.imp And.left And.left, ?_⟩
      rw [isUp]
      rcases isCode with ⟨isSuccess, isOk⟩ | ⟨isFailure, isNot⟩
      · exact iff_of_true isSuccess isOk
      · rw [isFailure]
        exact iff_of_false Nat.one_ne_zero isNot

/-- What is sent in a run is the courses of its requests. -/
theorem requests_courses {α : Type} (redirects : Redirects) (server : Handler Wire σ)
    (plan : Plan (Resizing Http) α) (cells : List Nat) (state : σ) :
    let ending := plan.transcript (NodeGroup.alone (redirects.client server.recorded))
      ((), cells, state, [])
    redirects.Courses (requests ending.exchanges) ending.state.2.2.2 := by
  intro ending
  have records := ((redirects.records_client server).beside Targets.answer).beside Locking.uncontended
  obtain ⟨own, isRecord, courses⟩ := records.transcript plan ((), cells, state, [])
  have isRequests : requests ending.exchanges = ending.exchanges.filterMap fun exchange =>
      exchange.right?.bind fun exchange => exchange.right?.bind some := by
    simp only [requests, sent, List.filterMap_filterMap, Option.bind_fun_some]
  rw [isRequests, show ending.state.2.2.2 = own from isRecord]
  exact courses

/-- **Scaling up from the command line.** Whatever the server replies and wherever redirects lead, a run
that is to add nodes ends, with exit code 0 or 1. The code is 0 just if everything went well
(`ScaledUp`): the start, the count of the group and the names of its members, and every trial at a
machine that was not passed over, as many as nodes were asked for. What counts of a request is what comes
of it in the end, after redirects; on the wire there is nothing but the courses of the requests. -/
theorem scaleUp_succeeds_iff (invokes : Invocation.ofArguments texts = .run arguments)
    (isScaleUp : arguments.command = .scaleUp delta) (environment : Environment)
    (redirects : Redirects) (server : Handler Wire σ) (cells : List Nat) (state : σ) :
    let client := redirects.client server.recorded
    let ending := (run environment texts).transcript (NodeGroup.alone client) ((), cells, state, [])
    redirects.Courses (requests ending.exchanges) ending.state.2.2.2 ∧
      ∃ report, ending.value = some report ∧ (report.exitCode = 0 ∨ report.exitCode = 1) ∧
        (report.exitCode = 0 ↔ ScaledUp (options environment arguments) delta client (state, [])
          (requests ending.exchanges)) :=
  ⟨requests_courses redirects server (run environment texts) cells state,
    run_ends invokes isScaleUp environment _ cells (state, [])⟩

/-- The surroundings in which every file is the small cloud config. -/
def smallEnvironment : Environment := ⟨fun _ => StartOptions.smallConfig.bytes, none, none⟩

/-- The arguments for one more node of a small cluster. -/
def smallArguments : List String :=
  ["--cloud-config", "vsphere.toml", "--cluster-name", "prod", "--nodes", "0:5:workers", "scale-up",
    "--delta", "1"]

/-- What a server may reply when the first machine of a group is made, with some replies to the clone: to
the login, three times that there are no tags, what there is only one of, and the two tags that are
attached. -/
def smallReplies (toClone : List WireReply) : List WireReply :=
  ["\"token\"", "[]", "[]", "[]", "[]", "[]", "[]", "[\x7b\"datacenter\":\"d\",\"name\":\"dc\"\x7d]",
    "[\x7b\"resource_pool\":\"r\",\"name\":\"pool\"\x7d]", "[\x7b\"folder\":\"f\",\"name\":\"vm\"\x7d]",
    "[\x7b\"vm\":\"t\",\"name\":\"tmpl\"\x7d]"].map .saying ++ toClone ++
  ["[\"c\"]", "\x7b\"id\":\"c\",\"name\":\"k8s-cluster-prod\"\x7d", "", "[\"g\"]",
    "\x7b\"id\":\"g\",\"name\":\"k8s-nodegroup-workers\"\x7d", ""].map .saying

/-- What comes of adding the first machine when a server gives some replies. -/
def smallEnding (replies : List WireReply) :
    Transcript (Resizing Http) (Unit × List Nat × List WireReply × List (Exchange Wire)) RunEnding :=
  (run smallEnvironment smallArguments).transcript
    (NodeGroup.alone ((Redirects.standard Redirects.wholeAddress).client replying.recorded))
    ((), [], replies, [])

/-- Against a server that replies to all requests with successes, the first machine of a group is made. -/
theorem small_scaledUp : ∃ arguments, Invocation.ofArguments smallArguments = .run arguments ∧
    arguments.command = .scaleUp 1 ∧
    ScaledUp (options smallEnvironment arguments) 1
      ((Redirects.standard Redirects.wholeAddress).client replying.recorded)
      (smallReplies [.saying "\"vm-1\""], [])
      (requests (smallEnding (smallReplies [.saying "\"vm-1\""])).exchanges) := by
  obtain ⟨arguments, invokes, isScaleUp⟩ : ∃ arguments,
      Invocation.ofArguments smallArguments = .run arguments ∧ arguments.command = .scaleUp 1 :=
    ⟨_, rfl, rfl⟩
  have succeeds : (smallEnding (smallReplies [.saying "\"vm-1\""])).value.map (·.exitCode) = some 0 := by
    decide +kernel
  obtain ⟨-, report, isReport, -, isUp⟩ := scaleUp_succeeds_iff invokes isScaleUp smallEnvironment
    (Redirects.standard Redirects.wholeAddress) replying [] (smallReplies [.saying "\"vm-1\""])
  refine ⟨arguments, invokes, isScaleUp, isUp.1 ?_⟩
  rw [show (smallEnding _).value = _ from isReport] at succeeds
  exact Option.some.inj succeeds

/-- The run is a success although the one request for a clone is answered with a redirect, if the
address to which this leads names a machine. -/
theorem moved_scaledUp :
    let moved := WireReply.moved 303 "https://[::1]/made"
    let ending := smallEnding (smallReplies [moved, .saying "\"vm-1\""])
    ending.value.map (·.exitCode) = some 0 ∧
      (ending.state.2.2.2.filter fun exchange =>
        (exchange.question : HttpRequest).url.query == some "action=clone").map
          (fun exchange => (exchange.answer : WireReply)) = [moved] := by
  decide +kernel

end NodeScaler.Cli
