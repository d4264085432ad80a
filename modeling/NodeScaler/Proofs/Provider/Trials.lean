import NodeScaler.Proofs.Inventory.Told
import NodeScaler.Proofs.Provider.Reading
import NodeScaler.Proofs.Provider.Trying

/-!
# What a client is told in trials

What becomes of the trials of a call is read off what the client has been asked and has answered: a
clone that fails or comes too late, a tag that cannot be attached, or both tags attached.
-/

namespace NodeScaler.Cloning

variable {σ : Type} (handler : Handler Told.interface σ)

/-- The request for the machine of a number. -/
def numbered (cloning : Cloning) (group : String) (number : Nat) : CloneRequest :=
  cloning.request (machineName cloning.cluster group number)

/-- A clone is answered before the time for clones is over. -/
def InTime (cloning : Cloning) (outcome : Told.Outcome ObjectRef) : Prop :=
  outcome.delay.waited.nanoseconds ≤ cloning.cloneTimeout.alarm.nanoseconds

/-- What a client is asked in a trial and what it answers. -/
inductive Tells (cloning : Cloning) (group : String) :
    Trial → List (Exchange Told.interface) → Prop where
  /-- The clone fails. -/
  | refused (number : Nat) (delay : Duration) (error : InventoryError)
      (inTime : InTime cloning ⟨delay, .error error⟩) :
      Tells cloning group ⟨number, .refused error⟩
        [⟨.clone (cloning.numbered group number), ⟨delay, .error error⟩⟩]
  /-- The clone takes too long and is dropped. -/
  | late (number : Nat) (outcome : Told.Outcome ObjectRef) (tooLate : ¬InTime cloning outcome) :
      Tells cloning group ⟨number, .refused (.timeout cloning.cloneTimeout)⟩
        [⟨.clone (cloning.numbered group number), outcome⟩]
  /-- The tag of the cluster cannot be attached. -/
  | withoutCluster (number : Nat) (delay other : Duration) (object : ObjectRef)
      (error : InventoryError) (inTime : InTime cloning ⟨delay, .ok object⟩) :
      Tells cloning group ⟨number, .stranded object error⟩
        [⟨.clone (cloning.numbered group number), ⟨delay, .ok object⟩⟩,
          ⟨.attach (clusterTag cloning.cluster) object, ⟨other, .error error⟩⟩]
  /-- The tag of the group cannot be attached. -/
  | withoutGroup (number : Nat) (delay other another : Duration) (object : ObjectRef)
      (error : InventoryError) (inTime : InTime cloning ⟨delay, .ok object⟩) :
      Tells cloning group ⟨number, .stranded object error⟩
        [⟨.clone (cloning.numbered group number), ⟨delay, .ok object⟩⟩,
          ⟨.attach (clusterTag cloning.cluster) object, ⟨other, .ok ()⟩⟩,
          ⟨.attach (groupTag group) object, ⟨another, .error error⟩⟩]
  /-- Both tags are attached. -/
  | tagged (number : Nat) (delay other another : Duration) (object : ObjectRef)
      (inTime : InTime cloning ⟨delay, .ok object⟩) :
      Tells cloning group ⟨number, .tagged object⟩
        [⟨.clone (cloning.numbered group number), ⟨delay, .ok object⟩⟩,
          ⟨.attach (clusterTag cloning.cluster) object, ⟨other, .ok ()⟩⟩,
          ⟨.attach (groupTag group) object, ⟨another, .ok ()⟩⟩]

/-- Several trials, one after the other. -/
inductive Tell (cloning : Cloning) (group : String) :
    List Trial → List (Exchange Told.interface) → Prop where
  /-- There was none. -/
  | nil : Tell cloning group [] []
  /-- The first one and the others. -/
  | cons {trial : Trial} {later : List Trial} {own rest : List (Exchange Told.interface)}
      (first : Tells cloning group trial own) (others : Tell cloning group later rest) :
      Tell cloning group (trial :: later) (own ++ rest)

/-! ## One trial -/

/-- Attaching a tag is one question. -/
theorem attach_transcript (tag : String) (object : ObjectRef) (state : σ) :
    (Told.client.attach tag object).run.transcript handler state =
      let reply := handler (.attach tag object) state
      ⟨[⟨.attach tag object, reply.1⟩], some reply.1.result, reply.2⟩ :=
  congrArg (Transcript.cons _) (Told.transcript_finish _ _)

/-- A clone is one question; an answer that comes too late is not heard. -/
theorem cloneWithin_transcript (cloning : Cloning) (request : CloneRequest) (state : σ) :
    let reply := handler (.clone request) state
    (InTime cloning reply.1 →
      ((Told.client.clone request).within cloning.cloneTimeout
        (.timeout cloning.cloneTimeout)).run.transcript handler state =
          ⟨[⟨.clone request, reply.1⟩], some reply.1.result, reply.2⟩) ∧
    (¬InTime cloning reply.1 →
      ((Told.client.clone request).within cloning.cloneTimeout
        (.timeout cloning.cloneTimeout)).run.transcript handler state =
          ⟨[⟨.clone request, reply.1⟩], some (.error (.timeout cloning.cloneTimeout)), reply.2⟩) := by
  intro reply
  have whole : (Plan.within cloning.cloneTimeout.alarm
      (Told.client.clone request).run).transcript handler state =
        (Plan.transcript handler (Plan.within cloning.cloneTimeout.alarm (Told.finish reply.1))
          reply.2).cons ⟨Told.Question.clone request, reply.1⟩ := rfl
  rw [Told.transcript_finish_within] at whole
  constructor
  · intro inTime
    unfold InTime at inTime
    rw [if_pos inTime] at whole
    exact Plan.transcript_handed whole (Option.getD · (.error (.timeout cloning.cloneTimeout)))
  · intro tooLate
    unfold InTime at tooLate
    rw [if_neg tooLate] at whole
    exact Plan.transcript_handed whole (Option.getD · (.error (.timeout cloning.cloneTimeout)))

/-- Attaching a tag and then others: a failure is the end. -/
theorem tag_cons_transcript (object : ObjectRef) (first : String) (rest : List String) (state : σ) :
    let reply := handler (.attach first object) state
    (∀ error, reply.1.result = .error error →
      (tag Told.client object (first :: rest)).run.transcript handler state =
        ⟨[⟨.attach first object, reply.1⟩], some (.error error), reply.2⟩) ∧
    (reply.1.result = .ok () →
      (tag Told.client object (first :: rest)).run.transcript handler state =
        ((tag Told.client object rest).run.transcript handler reply.2).cons
          ⟨Told.Question.attach first object, reply.1⟩) := by
  intro reply
  have one := attach_transcript handler first object state
  constructor
  · intro error fails
    exact Plan.transcript_attempt_stops (one.trans (by rw [← fails]))
  · intro succeeds
    exact Plan.transcript_attempt_then (one.trans (by rw [← succeeds])) rfl

/-- With a clone in time, the trial is decided by the two tags. -/
theorem tag_transcript (cloning : Cloning) (group : String) (number : Nat) (delay : Duration)
    (object : ObjectRef) (inTime : InTime cloning ⟨delay, .ok object⟩) (state : σ) :
    let ending := (tag Told.client object [clusterTag cloning.cluster, groupTag group]).run.transcript
      handler state
    ∃ fate, Tells cloning group ⟨number, fate⟩
        (⟨.clone (cloning.numbered group number), ⟨delay, .ok object⟩⟩ :: ending.exchanges) ∧
      ending.value = some fate.result := by
  intro ending
  obtain ⟨failsFirst, succeedsFirst⟩ := tag_cons_transcript handler object
    (clusterTag cloning.cluster) [groupTag group] state
  generalize handler (.attach (clusterTag cloning.cluster) object) state = reply
    at failsFirst succeedsFirst
  obtain ⟨⟨other, result⟩, middle⟩ := reply
  cases result with
  | error error =>
    have whole : ending = _ := failsFirst error rfl
    rw [whole]
    exact ⟨.stranded object error, .withoutCluster number delay other object error inTime, rfl⟩
  | ok =>
    have whole : ending = _ := succeedsFirst rfl
    obtain ⟨failsSecond, succeedsSecond⟩ := tag_cons_transcript handler object
      (groupTag group) [] middle
    generalize handler (.attach (groupTag group) object) middle = reply at failsSecond succeedsSecond
    obtain ⟨⟨another, result⟩, last⟩ := reply
    cases result with
    | error error =>
      rw [whole, failsSecond error rfl]
      exact ⟨.stranded object error,
        .withoutGroup number delay other another object error inTime, rfl⟩
    | ok =>
      rw [whole, succeedsSecond rfl]
      exact ⟨.tagged object, .tagged number delay other another object inTime, rfl⟩

/-- Making one machine is one trial. -/
theorem make_transcript (cloning : Cloning) (group : String) (number : Nat) (state : σ) :
    let ending := (cloning.make Told.client group
      (machineName cloning.cluster group number)).run.transcript handler state
    ∃ fate, Tells cloning group ⟨number, fate⟩ ending.exchanges ∧
      ending.value = some fate.result := by
  intro ending
  obtain ⟨heard, dropped⟩ := cloneWithin_transcript handler cloning
    (cloning.numbered group number) state
  generalize handler (.clone (cloning.numbered group number)) state = reply at heard dropped
  obtain ⟨⟨delay, result⟩, later⟩ := reply
  by_cases inTime : InTime cloning ⟨delay, result⟩
  · have cloned := heard inTime
    cases result with
    | error error =>
      have whole : ending = _ := Plan.transcript_attempt_stops cloned
      rw [whole]
      exact ⟨.refused error, .refused number delay error inTime, rfl⟩
    | ok object =>
      obtain ⟨fate, tells, value⟩ :=
        tag_transcript handler cloning group number delay object inTime later
      have whole : ending = _ := Plan.transcript_attempt_then cloned (Transcript.whole value)
      rw [whole]
      exact ⟨fate, tells, rfl⟩
  · have cloned := dropped inTime
    have whole : ending = _ := Plan.transcript_attempt_stops cloned
    rw [whole]
    exact ⟨.refused (.timeout cloning.cloneTimeout), .late number _ inTime, rfl⟩

/-! ## Several trials -/

/-- Making machines: the trials that count are as many as machines were asked for, and the account
says what came of them. -/
theorem makeAll_transcript (cloning : Cloning) (group : String) (count collisions number : Nat)
    (state : σ) :
    let ending := (cloning.makeAll Told.client group count collisions number).transcript handler state
    ∃ trials, Tell cloning group trials ending.exchanges ∧
      ending.value = some (tally cloning group (counted collisions trials)) ∧
      (counted collisions trials).length = count ∧
      trials.map (·.number) = numbersFrom number trials.length := by
  intro ending
  let reaches (number : Nat) (state : σ) (entries : List (Trial × List (Exchange Told.interface)))
      (last : σ) : Prop :=
    Tries cloning Told.client group handler number state entries last ∧
      Tell cloning group (entries.map Prod.fst) (entries.flatMap Prod.snd)
  have one (number : Nat) (state : σ) : ∃ own, ∃ fate : Fate, ∃ middle, ∀ {later last},
      reaches (following number) middle later last →
        reaches number state ((⟨number, fate⟩, own) :: later) last := by
    obtain ⟨fate, tells, value⟩ := make_transcript handler cloning group number state
    exact ⟨_, fate, _, fun ⟨others, rest⟩ =>
      ⟨.cons (Transcript.whole value) others, .cons tells rest⟩⟩
  obtain ⟨entries, last, ⟨tries, tells⟩, enough⟩ := exists_enough reaches
    (fun number state => ⟨.nil number state, .nil⟩) one count collisions number state
  have whole : ending = _ := tries.makeAll enough
  rw [whole]
  exact ⟨entries.map Prod.fst, tells, rfl, enough.1, tries.numbers⟩

/-- When the names of the members are read, a call for machines makes as many trials as are needed, of
consecutive numbers from the next one on, and comes to the account of those that count. -/
theorem create_transcript_named (cloning : Cloning) (group : String) (count : Nat) {state : σ}
    {existing : List String}
    (named : ((cloning.names Told.client group).run.transcript handler state).value =
      some (.ok existing)) :
    let naming := (cloning.names Told.client group).run.transcript handler state
    ∃ trials told last, (cloning.create Told.client group count).run.transcript handler state =
        ⟨naming.exchanges ++ told,
          some ((tally cloning group (counted mostCollisions trials)).result count), last⟩ ∧
      Tell cloning group trials told ∧ (counted mostCollisions trials).length = count ∧
      trials.map (·.number) =
        numbersFrom (nextNumber (stem cloning.cluster group) existing) trials.length := by
  intro naming
  obtain ⟨trials, tells, account, length, numbers⟩ := makeAll_transcript handler cloning group
    count mostCollisions (nextNumber (stem cloning.cluster group) existing) naming.state
  exact ⟨trials, _, _, Plan.transcript_attempt_then (Transcript.whole named)
    (Plan.transcript_handed (Transcript.whole account) (Account.result count ·)), tells, length,
    numbers⟩

end NodeScaler.Cloning
