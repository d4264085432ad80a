import Mathlib.Data.List.Nodup
import NodeScaler.Proofs.Plan.Errand

/-!
# Serving errands

The lock serves errands one at a time and in the order in which they ask for it. A service
names those that have been served, the one at work with what is left of its work, and those
that are queued. Every state of an interleaving has one, and the place of each job follows
from it.

A resource is guarded by the lock if it is sound whenever nobody is at work, and if every
errand at work can be followed from its first question to its last. What such errands claim
about the surroundings then holds at every instant, whatever the schedule.
-/

namespace NodeScaler

/-- Who has the lock, who had it before, and who will have it. -/
structure Service (I : Interface) (β : Type) where
  /-- Those who have given it back, in this order, with the value of their work. -/
  served : List (Nat × β)
  /-- The one at work, and what is left of the work. -/
  holder : Option (Nat × Plan I β)
  /-- Those who wait for it, the next one in front. -/
  queue : List Nat

namespace Service

variable {I : Interface} {α β : Type}

/-- Those who have asked for the lock, in the order in which they are served. -/
def arrived (service : Service I β) : List Nat :=
  service.served.map (·.1) ++ (service.holder.map (·.1)).toList ++ service.queue

/-- The one at work comes between those served and those who wait. -/
theorem arrived_of_holder {service : Service I β} {index : Nat} {rest : Plan I β}
    (holds : service.holder = some (index, rest)) :
    service.arrived = service.served.map (·.1) ++ index :: service.queue := by
  simp [arrived, holds]

/-- Only one is at work. -/
theorem holder_unique {service : Service I β} {index other : Nat} {rest found : Plan I β}
    (holds : service.holder = some (index, rest)) (holdsToo : service.holder = some (other, found)) :
    other = index := by
  cases holds.symm.trans holdsToo
  rfl

/-- Where a job stands, by what is left of its task. -/
inductive Place (harmless : I.Question → Prop) (reports : Nat → β → α → Prop)
    (service : Service I β) (finished : List (Finish α)) (index : Nat) :
    Job I β α → Task I α → Prop where
  /-- It never asks for the lock. -/
  | aside {plan : Plan (Locking.sum I) α} (turn : Turn) (rest : Plan (Locking.sum I) α)
      (quiet : rest.Quiet harmless fun _ => True) (isNew : index ∉ service.arrived) :
      Place harmless reports service finished index (.aside plan) (.due turn rest)
  /-- It never asked for the lock and has ended. -/
  | gone {plan : Plan (Locking.sum I) α} (isNew : index ∉ service.arrived) :
      Place harmless reports service finished index (.aside plan) .ended
  /-- It has not asked for the lock yet. -/
  | approaching {errand : Errand I β α} (turn : Turn) (approach : Plan (Locking.sum I) Unit)
      (quiet : approach.Quiet harmless fun _ => True) (isNew : index ∉ service.arrived) :
      Place harmless reports service finished index (.errand errand)
        (.due turn (approach >>= fun _ => errand.entry))
  /-- It waits for the lock. -/
  | queued {errand : Errand I β α} (waits : index ∈ service.queue) :
      Place harmless reports service finished index (.errand errand)
        (.queued (errand.holding errand.work))
  /-- It is at work. -/
  | working {errand : Errand I β α} (turn : Turn) (rest : Plan I β)
      (holds : service.holder = some (index, rest)) :
      Place harmless reports service finished index (.errand errand)
        (.due turn (errand.holding rest))
  /-- It has done its work and has still to report. -/
  | leaving {errand : Errand I β α} (turn : Turn) (value : β) (rest : Plan (Locking.sum I) α)
      (done : (index, value) ∈ service.served) (quiet : rest.Quiet harmless (reports index value)) :
      Place harmless reports service finished index (.errand errand) (.due turn rest)
  /-- It has done its work and has reported. -/
  | closed {errand : Errand I β α} (finish : Finish α) (value : β)
      (done : (index, value) ∈ service.served) (listed : finish ∈ finished)
      (own : finish.index = index) (reported : reports index value finish.value) :
      Place harmless reports service finished index (.errand errand) .ended

variable {harmless : I.Question → Prop} {reports : Nat → β → α → Prop}
  {service later : Service I β} {finished more : List (Finish α)} {index mover : Nat}
  {job : Job I β α} {task : Task I α}

/-- A job keeps its place when another one moves: nobody but the mover can newly arrive or
cease to be at work, and the queue keeps it. -/
theorem Place.mono (place : Place harmless reports service finished index job task)
    (other : index ≠ mover) (arrives : ∀ one ∈ later.arrived, one = mover ∨ one ∈ service.arrived)
    (waits : index ∈ service.queue → index ∈ later.queue)
    (holds : ∀ rest, service.holder = some (index, rest) → later.holder = some (index, rest))
    (serves : ∀ one ∈ service.served, one ∈ later.served)
    (lists : ∀ one ∈ finished, one ∈ more) :
    Place harmless reports later more index job task := by
  have stillNew (isNew : index ∉ service.arrived) : index ∉ later.arrived :=
    fun isIn => (arrives index isIn).elim other isNew
  cases place with
  | aside turn rest quiet isNew => exact .aside turn rest quiet (stillNew isNew)
  | gone isNew => exact .gone (stillNew isNew)
  | approaching turn approach quiet isNew =>
    exact .approaching turn approach quiet (stillNew isNew)
  | queued isIn => exact .queued (waits isIn)
  | working turn rest holder => exact .working turn rest (holds rest holder)
  | leaving turn value rest done quiet => exact .leaving turn value rest (serves _ done) quiet
  | closed finish value done listed own reported =>
    exact .closed finish value (serves _ done) (lists _ listed) own reported

end Service

namespace Concurrent

variable {I : Interface} {σ α β : Type}

/-- What is claimed about the surroundings while nobody is at work and while an errand is. The
claims may speak about those served before and about all that has been exchanged. -/
structure Guards (handler : Handler I σ) (disturbed : σ → σ → Prop)
    (harmless : I.Question → Prop) (jobs : List (Job I β α))
    (free : List (Nat × β) → List (Nat × Exchange I) → σ → Prop)
    (held : List (Nat × β) → List (Nat × Exchange I) → Nat → Plan I β → σ → Prop) : Prop where
  /-- An errand can begin its work when nobody is at work. -/
  enter {served : List (Nat × β)} {trace : List (Nat × Exchange I)} {index : Nat} {state : σ}
    {errand : Errand I β α} (isJob : jobs[index]? = some (.errand errand))
    (sound : free served trace state) : held served trace index errand.work state
  /-- Work goes on with the answer to its question. -/
  ask {served : List (Nat × β)} {trace : List (Nat × Exchange I)} {index : Nat} {state : σ}
    {question : I.Question} {next : I.Answer question → Plan I β}
    (sound : held served trace index (.ask question next) state) :
    held served (trace ++ [(index, ⟨question, (handler question state).1⟩)]) index
      (next (handler question state).1) (handler question state).2
  /-- Work goes on after a wait. -/
  wait {served : List (Nat × β)} {trace : List (Nat × Exchange I)} {index : Nat} {state : σ}
    {span : Duration} {next : Plan I β} (sound : held served trace index (.wait span next) state) :
    held served trace index next state
  /-- Work does not stall. -/
  proceed {served : List (Nat × β)} {trace : List (Nat × Exchange I)} {index : Nat} {state : σ} :
    ¬held served trace index .stall state
  /-- Work leaves the surroundings fit for the next errand. -/
  leave {served : List (Nat × β)} {trace : List (Nat × Exchange I)} {index : Nat} {state : σ}
    {value : β} (sound : held served trace index (.done value) state) :
    free (served ++ [(index, value)]) trace state
  /-- Harmless questions of others do not matter while nobody is at work. -/
  passFree {served : List (Nat × β)} {trace : List (Nat × Exchange I)} {index : Nat} {state : σ}
    {question : I.Question} (harms : harmless question) (sound : free served trace state) :
    free served (trace ++ [(index, ⟨question, (handler question state).1⟩)])
      (handler question state).2
  /-- Harmless questions of others do not matter to an errand at work. -/
  passHeld {served : List (Nat × β)} {trace : List (Nat × Exchange I)} {index other : Nat}
    {state : σ} {question : I.Question} {rest : Plan I β} (harms : harmless question)
    (sound : held served trace other rest state) :
    held served (trace ++ [(index, ⟨question, (handler question state).1⟩)]) other rest
      (handler question state).2
  /-- Disturbances do not matter while nobody is at work. -/
  disturbFree {served : List (Nat × β)} {trace : List (Nat × Exchange I)} {state later : σ}
    (change : disturbed state later) (sound : free served trace state) : free served trace later
  /-- Disturbances do not matter to an errand at work. -/
  disturbHeld {served : List (Nat × β)} {trace : List (Nat × Exchange I)} {other : Nat}
    {state later : σ} {rest : Plan I β} (change : disturbed state later)
    (sound : held served trace other rest state) : held served trace other rest later

/-- What is claimed at some instant, by who is at work. -/
def Claimed (free : List (Nat × β) → List (Nat × Exchange I) → σ → Prop)
    (held : List (Nat × β) → List (Nat × Exchange I) → Nat → Plan I β → σ → Prop)
    (service : Service I β) (trace : List (Nat × Exchange I)) (state : σ) : Prop :=
  match service.holder with
  | none => free service.served trace state
  | some (index, rest) => held service.served trace index rest state

/-- A service explains a state of an interleaving. -/
structure Serves (harmless : I.Question → Prop) (reports : Nat → β → α → Prop)
    (jobs : List (Job I β α)) (events : List (Nat × Act I)) (run : Concurrent I σ α)
    (service : Service I β) : Prop where
  /-- They are served in the order in which they asked. -/
  arrived : arrivals events = service.arrived
  /-- Those served are those that have given the lock back. -/
  departed : departures events = service.served.map (·.1)
  /-- Everyone asks at most once. -/
  once : service.arrived.Nodup
  /-- The queue is the queue of the lock. -/
  queued : run.queue = service.queue
  /-- The lock is taken while somebody is at work. -/
  locked : run.locked = service.holder.isSome
  /-- Nobody waits in vain. -/
  idle : service.holder = none → service.queue = []
  /-- Only jobs ask. -/
  known : ∀ one ∈ service.arrived, one < jobs.length
  /-- Every job has a task. -/
  length : run.tasks.length = jobs.length
  /-- Every job has its place. -/
  place (index : Nat) (job : Job I β α) (task : Task I α) (isJob : jobs[index]? = some job)
    (isTask : run.tasks[index]? = some task) :
    service.Place harmless reports run.finished index job task

namespace Serves

variable {harmless : I.Question → Prop} {reports : Nat → β → α → Prop} {jobs : List (Job I β α)}
  {events : List (Nat × Act I)} {run later : Concurrent I σ α} {service after : Service I β}
  {index : Nat} {act : Act I}

/-- A later state is explained by a later service if every job either has kept its task or has
a new place. -/
theorem step (serves : Serves harmless reports jobs events run service)
    (isKnown : index < jobs.length) (arrived : arrivals (events ++ [(index, act)]) = after.arrived)
    (departed : departures (events ++ [(index, act)]) = after.served.map (·.1))
    (once : after.arrived.Nodup) (queued : later.queue = after.queue)
    (locked : later.locked = after.holder.isSome) (idle : after.holder = none → after.queue = [])
    (length : later.tasks.length = run.tasks.length)
    (holds : ∀ other rest, other ≠ index → service.holder = some (other, rest) →
      after.holder = some (other, rest))
    (served : ∀ one ∈ service.served, one ∈ after.served)
    (finished : ∀ one ∈ run.finished, one ∈ later.finished)
    (moved : ∀ other job task, jobs[other]? = some job → later.tasks[other]? = some task →
      (other ≠ index ∧ run.tasks[other]? = some task ∧
        (other ∈ service.queue → other ∈ after.queue)) ∨
      after.Place harmless reports later.finished other job task) :
    Serves harmless reports jobs (events ++ [(index, act)]) later after := by
  have arrives : ∀ one ∈ after.arrived, one = index ∨ one ∈ service.arrived := by
    intro one isIn
    rw [← arrived, arrivals_append, serves.arrived, List.mem_append] at isIn
    refine isIn.symm.imp_left fun isIn => ?_
    split at isIn
    · exact List.mem_singleton.1 isIn
    · cases isIn
  refine ⟨arrived, departed, once, queued, locked, idle, fun one isIn => ?_,
    length.trans serves.length, fun other job task isJob isTask => ?_⟩
  · exact (arrives one isIn).elim (fun same => same ▸ isKnown) (serves.known one)
  · rcases moved other job task isJob isTask with ⟨differs, kept, waits⟩ | place
    · exact (serves.place other job task isJob kept).mono differs arrives waits
        (fun rest => holds other rest differs) served finished
    · exact place

/-- A later state in which only the task of the mover has changed is explained by a later service
in which the mover has a place. -/
theorem stepOne (serves : Serves harmless reports jobs events run service) {task : Task I α}
    (isKnown : index < jobs.length) (arrived : arrivals (events ++ [(index, act)]) = after.arrived)
    (departed : departures (events ++ [(index, act)]) = after.served.map (·.1))
    (once : after.arrived.Nodup) (queued : later.queue = after.queue)
    (locked : later.locked = after.holder.isSome) (idle : after.holder = none → after.queue = [])
    (tasks : later.tasks = run.tasks.set index task)
    (holds : ∀ other rest, other ≠ index → service.holder = some (other, rest) →
      after.holder = some (other, rest))
    (waits : ∀ one ∈ service.queue, one ∈ after.queue)
    (served : ∀ one ∈ service.served, one ∈ after.served)
    (finished : ∀ one ∈ run.finished, one ∈ later.finished)
    (place : ∀ job, jobs[index]? = some job →
      after.Place harmless reports later.finished index job task) :
    Serves harmless reports jobs (events ++ [(index, act)]) later after := by
  refine serves.step isKnown arrived departed once queued locked idle (by rw [tasks, List.length_set])
    holds served finished fun other job found isJob isTask => ?_
  rw [tasks, List.getElem?_set] at isTask
  split at isTask
  · next same =>
    subst same
    split at isTask
    · cases isTask
      exact .inr (place job isJob)
    · cases isTask
  · next differs => exact .inl ⟨fun same => differs same.symm, isTask, waits other⟩

/-- Somebody moves without asking for the lock or giving it back, and only the task of the mover
changes. -/
theorem move (serves : Serves harmless reports jobs events run service) {task : Task I α}
    (isKnown : index < jobs.length) (notRequest : act ≠ .requests) (notReturn : act ≠ .returns)
    (same : after.served = service.served ∧ after.queue = service.queue ∧
      after.holder.map (·.1) = service.holder.map (·.1))
    (holds : ∀ other rest, other ≠ index → service.holder = some (other, rest) →
      after.holder = some (other, rest))
    (queued : later.queue = run.queue) (locked : later.locked = run.locked)
    (tasks : later.tasks = run.tasks.set index task)
    (finished : ∀ one ∈ run.finished, one ∈ later.finished)
    (place : ∀ job, jobs[index]? = some job →
      after.Place harmless reports later.finished index job task) :
    Serves harmless reports jobs (events ++ [(index, act)]) later after := by
  obtain ⟨servedSame, queueSame, holderSame⟩ := same
  have someSame : after.holder.isSome = service.holder.isSome := by
    rw [← Option.isSome_map, holderSame, Option.isSome_map]
  have arrivedSame : after.arrived = service.arrived := by
    simp only [Service.arrived, servedSame, queueSame, holderSame]
  have arrived : arrivals (events ++ [(index, act)]) = after.arrived := by
    rw [arrivals_append, serves.arrived, arrivedSame]
    cases act with
    | requests => exact absurd rfl notRequest
    | returns | exchanges | pauses => exact List.append_nil _
  have departed : departures (events ++ [(index, act)]) = after.served.map (·.1) := by
    rw [departures_append, serves.departed, servedSame]
    cases act with
    | returns => exact absurd rfl notReturn
    | requests | exchanges | pauses => exact List.append_nil _
  refine serves.stepOne isKnown arrived departed (arrivedSame ▸ serves.once)
    (queued.trans (serves.queued.trans queueSame.symm))
    (locked.trans (serves.locked.trans someSame.symm)) (fun none => ?_) tasks holds
    (fun _ isIn => queueSame ▸ isIn) (fun _ isIn => servedSame ▸ isIn) finished place
  rw [queueSame]
  refine serves.idle ?_
  rwa [← Option.not_isSome_iff_eq_none, someSame, Option.not_isSome_iff_eq_none] at none

/-- Even with a newcomer everyone has asked at most once. -/
theorem once_append (serves : Serves harmless reports jobs events run service)
    (isNew : index ∉ service.arrived) : (service.arrived ++ [index]).Nodup := by
  rw [List.nodup_middle, List.append_nil]
  exact List.nodup_cons.2 ⟨isNew, serves.once⟩

/-- Whoever has asked for the lock has a job and a task, and stands at a place. -/
theorem exists_place (serves : Serves harmless reports jobs events run service)
    (arrived : index ∈ service.arrived) :
    ∃ job task, jobs[index]? = some job ∧ run.tasks[index]? = some task ∧
      service.Place harmless reports run.finished index job task := by
  have isKnown := serves.known index arrived
  have isJob : jobs[index]? = some jobs[index] := List.getElem?_eq_getElem isKnown
  have hasTask : index < run.tasks.length := serves.length ▸ isKnown
  have isTask : run.tasks[index]? = some run.tasks[index] := List.getElem?_eq_getElem hasTask
  exact ⟨_, _, isJob, isTask, serves.place index _ _ isJob isTask⟩

/-- Whoever waits has not been served, since everyone asks at most once. -/
theorem unserved_of_queue (serves : Serves harmless reports jobs events run service)
    (isIn : index ∈ service.queue) : index ∉ service.served.map (·.1) := fun isServed =>
  (List.nodup_append.1 serves.once).2.2 _ (List.mem_append_left _ isServed) _ isIn rfl

/-- Whoever is at work neither waits nor has been served. -/
theorem apart_of_holder (serves : Serves harmless reports jobs events run service)
    {rest : Plan I β} (holds : service.holder = some (index, rest)) :
    index ∉ service.queue ∧ index ∉ service.served.map (·.1) := by
  have once := serves.once
  rw [Service.arrived_of_holder holds, List.nodup_middle, List.nodup_cons, List.mem_append,
    not_or] at once
  exact once.1.symm

/-- Whoever is in the queue is an errand that is queued for its work. -/
theorem waits (serves : Serves harmless reports jobs events run service)
    (isIn : index ∈ service.queue) :
    ∃ errand, jobs[index]? = some (.errand errand) ∧
      run.tasks[index]? = some (.queued (errand.holding errand.work)) := by
  have arrived : index ∈ service.arrived := List.mem_append_right _ isIn
  obtain ⟨job, task, isJob, isTask, place⟩ := serves.exists_place arrived
  cases place with
  | queued => exact ⟨_, isJob, isTask⟩
  | aside _ _ _ isNew | gone isNew | approaching _ _ _ isNew => exact absurd arrived isNew
  | working _ _ holds => exact absurd isIn (serves.apart_of_holder holds).1
  | leaving _ value _ done | closed _ value done =>
    exact absurd (List.mem_map.2 ⟨_, done, rfl⟩) (serves.unserved_of_queue isIn)

/-- Whoever has the lock is an errand that can go on with its work. -/
theorem works (serves : Serves harmless reports jobs events run service) {rest : Plan I β}
    (holds : service.holder = some (index, rest)) :
    ∃ errand turn, jobs[index]? = some (.errand errand) ∧
      run.tasks[index]? = some (.due turn (errand.holding rest)) := by
  have arrived : index ∈ service.arrived := by
    rw [Service.arrived_of_holder holds]
    exact List.mem_append_right _ List.mem_cons_self
  obtain ⟨job, task, isJob, isTask, place⟩ := serves.exists_place arrived
  obtain ⟨notWaits, notServed⟩ := serves.apart_of_holder holds
  cases place with
  | working turn other otherHolds =>
    cases holds.symm.trans otherHolds
    exact ⟨_, turn, isJob, isTask⟩
  | aside _ _ _ isNew | gone isNew | approaching _ _ _ isNew => exact absurd arrived isNew
  | queued isIn => exact absurd isIn notWaits
  | leaving _ value _ done | closed _ value done =>
    exact absurd (List.mem_map.2 ⟨_, done, rfl⟩) notServed

/-- Whoever is at work has the lock. -/
theorem inside (serves : Serves harmless reports jobs events run service) {rest : Plan I β}
    (holds : service.holder = some (index, rest)) : Inside events run index := by
  obtain ⟨notWaits, notServed⟩ := serves.apart_of_holder holds
  refine ⟨?_, ?_, ?_⟩
  · rw [serves.arrived, Service.arrived_of_holder holds]
    exact List.mem_append_right _ List.mem_cons_self
  · rwa [serves.queued]
  · rwa [serves.departed]

end Serves

section Guarded

variable {handler : Handler I σ} {disturbed : σ → σ → Prop}
  {harmless : I.Question → Prop} {reports : Nat → β → α → Prop} {jobs : List (Job I β α)}
  {free : List (Nat × β) → List (Nat × Exchange I) → σ → Prop}
  {held : List (Nat × β) → List (Nat × Exchange I) → Nat → Plan I β → σ → Prop}
  {events : List (Nat × Act I)} {run : Concurrent I σ α} {service : Service I β}
  {index : Nat} {turn : Turn}

/-- A service explains an interleaving so far, and what is claimed holds. -/
def Explains (harmless : I.Question → Prop) (reports : Nat → β → α → Prop)
    (jobs : List (Job I β α)) (free : List (Nat × β) → List (Nat × Exchange I) → σ → Prop)
    (held : List (Nat × β) → List (Nat × Exchange I) → Nat → Plan I β → σ → Prop)
    (events : List (Nat × Act I)) (run : Concurrent I σ α) (service : Service I β) : Prop :=
  Serves harmless reports jobs events run service ∧
    Claimed free held service (exchanges events) run.state

/-- A claim outlives a harmless question. -/
theorem Claimed.pass (guards : Guards handler disturbed harmless jobs free held)
    {trace : List (Nat × Exchange I)} {state : σ} {question : I.Question}
    (harms : harmless question) (claimed : Claimed free held service trace state) :
    Claimed free held service (trace ++ [(index, ⟨question, (handler question state).1⟩)])
      (handler question state).2 := by
  unfold Claimed at claimed ⊢
  split
  · next none =>
    rw [none] at claimed
    exact guards.passFree harms claimed
  · next other rest holds =>
    rw [holds] at claimed
    exact guards.passHeld harms claimed

/-- Somebody asks a harmless question and has a place afterwards. -/
theorem Explains.ask (guards : Guards handler disturbed harmless jobs free held)
    (explains : Explains harmless reports jobs free held events run service)
    (isKnown : index < jobs.length) {question : I.Question}
    {next : I.Answer question → Plan (Locking.sum I) α} (harms : harmless question)
    (place : ∀ answer job, jobs[index]? = some job →
      service.Place harmless reports run.finished index job (.due turn (next answer))) :
    Explains harmless reports jobs free held
      (events ++ [(index, act handler run.state (.ask (.inr question) next))])
      (run.follow handler index turn (.ask (.inr question) next)) service := by
  refine ⟨explains.1.move isKnown (by simp [act]) (by simp [act]) ⟨rfl, rfl, rfl⟩
    (fun _ _ _ holds => holds) rfl rfl rfl (fun _ isIn => isIn) (place _), ?_⟩
  rw [exchanges_append]
  exact explains.2.pass guards harms

/-- Somebody begins to wait, or ends, and has a place afterwards. -/
theorem Explains.pause (explains : Explains harmless reports jobs free held events run service)
    (isKnown : index < jobs.length) {plan : Plan (Locking.sum I) α} {later : Concurrent I σ α}
    {task : Task I α} (pauses : act handler run.state plan = .pauses)
    (state : later.state = run.state)
    (queued : later.queue = run.queue) (locked : later.locked = run.locked)
    (tasks : later.tasks = run.tasks.set index task)
    (finished : ∀ one ∈ run.finished, one ∈ later.finished)
    (place : ∀ job, jobs[index]? = some job →
      service.Place harmless reports later.finished index job task) :
    Explains harmless reports jobs free held
      (events ++ [(index, act handler run.state plan)]) later service := by
  rw [pauses]
  refine ⟨explains.1.move isKnown (by simp) (by simp) ⟨rfl, rfl, rfl⟩ (fun _ _ _ holds => holds)
    queued locked tasks finished place, ?_⟩
  rw [exchanges_append, List.append_nil, state]
  exact explains.2

/-- A quiet plan goes on. -/
theorem Explains.quiet (guards : Guards handler disturbed harmless jobs free held)
    (explains : Explains harmless reports jobs free held events run service)
    (isKnown : index < jobs.length) {rest : Plan (Locking.sum I) α} {kind : α → Prop}
    (quiet : rest.Quiet harmless kind)
    (due : ∀ turn rest job, rest.Quiet harmless kind → jobs[index]? = some job →
      service.Place harmless reports run.finished index job (.due turn rest))
    (ended : ∀ instant value job, kind value → jobs[index]? = some job →
      service.Place harmless reports (run.finished ++ [⟨index, instant, value⟩]) index job .ended) :
    Explains harmless reports jobs free held
      (events ++ [(index, act handler run.state rest)]) (run.follow handler index turn rest)
      service := by
  cases rest with
  | done value =>
    exact explains.pause isKnown rfl rfl rfl rfl rfl (fun _ isIn => List.mem_append_left _ isIn)
      fun job => ended _ value job quiet
  | ask question next =>
    cases question with
    | inl request => exact quiet.elim
    | inr question =>
      exact explains.ask guards isKnown quiet.1 fun answer job => due _ _ job (quiet.2 answer)
  | wait span next =>
    exact explains.pause isKnown rfl rfl rfl rfl rfl (fun _ isIn => isIn) fun job => due _ _ job quiet
  | stall => exact quiet.elim

/-- An errand that asks for the lock while nobody has it is at work at once. -/
theorem Explains.begin (guards : Guards handler disturbed harmless jobs free held)
    (explains : Explains harmless reports jobs free held events run service)
    {errand : Errand I β α} (isErrand : jobs[index]? = some (.errand errand))
    (isNew : index ∉ service.arrived) (nobody : service.holder = none) :
    Explains harmless reports jobs free held (events ++ [(index, .requests)])
      (run.follow handler index turn errand.entry)
      { service with holder := some (index, errand.work) } := by
  obtain ⟨serves, claimed⟩ := explains
  have isKnown : index < jobs.length := (List.getElem?_eq_some_iff.1 isErrand).1
  have unlocked : run.locked = false := by rw [serves.locked, nobody]; rfl
  have arrived : service.arrived ++ [index] =
      { service with holder := some (index, errand.work) : Service I β }.arrived := by
    simp [Service.arrived, nobody, serves.idle nobody]
  have moved : run.follow handler index turn errand.entry =
      { run with
        tasks := run.tasks.set index (.due turn (errand.holding errand.work))
        active := some index, now := turn.instant, locked := true } := by
    simp [Errand.entry, follow, unlocked]
  rw [moved]
  constructor
  · refine serves.stepOne isKnown ?_ ?_ (arrived ▸ serves.once_append isNew) serves.queued rfl
      (fun none => by cases none) rfl (fun _ _ _ holds => by cases nobody.symm.trans holds)
      (fun _ isIn => isIn) (fun _ isIn => isIn) (fun _ isIn => isIn) fun job isJob => ?_
    · rw [arrivals_append, serves.arrived, arrived]
    · rw [departures_append, List.append_nil, serves.departed]
    · cases isErrand.symm.trans isJob
      exact .working _ _ rfl
  · rw [exchanges_append, List.append_nil]
    simp only [Claimed, nobody] at claimed ⊢
    exact guards.enter isErrand claimed

/-- An errand that asks for the lock while somebody has it is the last in the queue. -/
theorem Explains.enqueue (explains : Explains harmless reports jobs free held events run service)
    {errand : Errand I β α} (isErrand : jobs[index]? = some (.errand errand))
    (isNew : index ∉ service.arrived) {other : Nat × Plan I β} (holds : service.holder = some other) :
    Explains harmless reports jobs free held (events ++ [(index, .requests)])
      (run.follow handler index turn errand.entry)
      { service with queue := service.queue ++ [index] } := by
  obtain ⟨serves, claimed⟩ := explains
  have isKnown : index < jobs.length := (List.getElem?_eq_some_iff.1 isErrand).1
  have locked : run.locked = true := by rw [serves.locked, holds]; rfl
  have arrived : service.arrived ++ [index] =
      { service with queue := service.queue ++ [index] : Service I β }.arrived := by
    simp [Service.arrived]
  have moved : run.follow handler index turn errand.entry =
      { run with
        tasks := run.tasks.set index (.queued (errand.holding errand.work))
        active := none, now := turn.instant, queue := run.queue ++ [index] } := by
    simp [Errand.entry, follow, locked]
  rw [moved]
  constructor
  · refine serves.stepOne isKnown ?_ ?_ (arrived ▸ serves.once_append isNew)
      (congrArg (· ++ [index]) serves.queued) serves.locked
      (fun none => by cases none.symm.trans holds) rfl (fun _ _ _ holds => holds)
      (fun _ isIn => List.mem_append_left _ isIn) (fun _ isIn => isIn) (fun _ isIn => isIn)
      fun job isJob => ?_
    · rw [arrivals_append, serves.arrived, arrived]
    · rw [departures_append, List.append_nil, serves.departed]
    · cases isErrand.symm.trans isJob
      exact .queued (List.mem_append_right _ (List.mem_singleton_self _))
  · rw [exchanges_append, List.append_nil]
    exact claimed

/-- An errand asks for the lock: it is at work, or the last in the queue. -/
theorem Explains.request (guards : Guards handler disturbed harmless jobs free held)
    (explains : Explains harmless reports jobs free held events run service)
    {errand : Errand I β α} (isErrand : jobs[index]? = some (.errand errand))
    (isNew : index ∉ service.arrived) :
    ∃ after, Explains harmless reports jobs free held
      (events ++ [(index, act handler run.state errand.entry)])
      (run.follow handler index turn errand.entry) after := by
  cases holder : service.holder with
  | none => exact ⟨_, explains.begin guards isErrand isNew holder⟩
  | some other => exact ⟨_, explains.enqueue isErrand isNew holder⟩

/-- An errand whose work is done gives the lock back while nobody waits for it, and nobody has it
any more. -/
theorem Explains.leave (guards : Guards handler disturbed harmless jobs free held)
    (explains : Explains harmless reports jobs free held events run service)
    {errand : Errand I β α} {value : β} (isErrand : jobs[index]? = some (.errand errand))
    (holds : service.holder = some (index, .done value))
    (quiet : (errand.report value).Quiet harmless (reports index value))
    (noQueue : service.queue = []) :
    Explains harmless reports jobs free held (events ++ [(index, .returns)])
      (run.follow handler index turn (errand.holding (.done value)))
      ⟨service.served ++ [(index, value)], none, []⟩ := by
  obtain ⟨serves, claimed⟩ := explains
  have isKnown : index < jobs.length := (List.getElem?_eq_some_iff.1 isErrand).1
  have arrived : service.arrived =
      (⟨service.served ++ [(index, value)], none, []⟩ : Service I β).arrived := by
    simp [Service.arrived, holds, noQueue]
  have moved : run.follow handler index turn (errand.holding (.done value)) =
      { run with
        tasks := run.tasks.set index (.due turn (errand.report value))
        active := some index, now := turn.instant, locked := false } := by
    simp [follow, handOn, serves.queued, noQueue]
  rw [moved]
  constructor
  · refine serves.stepOne isKnown ?_ ?_ (arrived ▸ serves.once) (serves.queued.trans noQueue) rfl
      (fun _ => rfl) rfl (fun other rest differs found => ?_) (fun _ isIn => noQueue ▸ isIn)
      (fun _ isIn => List.mem_append_left _ isIn) (fun _ isIn => isIn) fun job isJob => ?_
    · rw [arrivals_append, List.append_nil, serves.arrived, arrived]
    · rw [departures_append, serves.departed, List.map_append, List.map_singleton]
    · exact absurd (Service.holder_unique holds found) differs
    · cases isErrand.symm.trans isJob
      exact .leaving turn value _ (List.mem_append_right _ (List.mem_singleton_self _)) quiet
  · rw [exchanges_append, List.append_nil]
    simp only [Claimed, holds] at claimed ⊢
    exact guards.leave claimed

/-- An errand whose work is done gives the lock back, and the first of those who wait for it is at
work. The mover and that one have new places; all others keep theirs. -/
theorem Explains.handOver (guards : Guards handler disturbed harmless jobs free held)
    (explains : Explains harmless reports jobs free held events run service)
    {errand next : Errand I β α} {value : β} (isErrand : jobs[index]? = some (.errand errand))
    (holds : service.holder = some (index, .done value))
    (quiet : (errand.report value).Quiet harmless (reports index value))
    {first : Nat} {others : List Nat} (queue : service.queue = first :: others)
    (isNext : jobs[first]? = some (.errand next))
    (waits : run.tasks[first]? = some (.queued (next.holding next.work))) :
    Explains harmless reports jobs free held (events ++ [(index, .returns)])
      (run.follow handler index turn (errand.holding (.done value)))
      ⟨service.served ++ [(index, value)], some (first, next.work), others⟩ := by
  obtain ⟨serves, claimed⟩ := explains
  have isKnown : index < jobs.length := (List.getElem?_eq_some_iff.1 isErrand).1
  have differs : first ≠ index := fun same =>
    (serves.apart_of_holder holds).1 (same ▸ queue ▸ List.mem_cons_self)
  have arrived : service.arrived =
      (⟨service.served ++ [(index, value)], some (first, next.work), others⟩ : Service I β).arrived :=
    by simp [Service.arrived, holds, queue]
  have moved : run.follow handler index turn (errand.holding (.done value)) =
      { run with
        tasks := (run.tasks.set index (.due turn (errand.report value))).modify first
          (·.wake ⟨turn.instant, if first = 0 then 0 else run.waits⟩)
        active := some index, now := turn.instant, waits := run.waits + 1, queue := others } := by
    simp [follow, handOn, turnAt, serves.queued, queue]
  rw [moved]
  constructor
  · refine serves.step isKnown ?_ ?_ (arrived ▸ serves.once) rfl ?_ (fun none => by cases none) ?_
      (fun other rest apart found => absurd (Service.holder_unique holds found) apart)
      (fun _ isIn => List.mem_append_left _ isIn) (fun _ isIn => isIn)
      fun other job task isJob isTask => ?_
    · rw [arrivals_append, List.append_nil, serves.arrived, arrived]
    · rw [departures_append, serves.departed, List.map_append, List.map_singleton]
    · exact serves.locked.trans (by rw [holds]; rfl)
    · rw [List.length_modify, List.length_set]
    · dsimp only at isTask
      by_cases isMover : other = index
      · subst isMover
        cases isErrand.symm.trans isJob
        rw [List.getElem?_modify_ne _ _ differs, List.getElem?_set_self (serves.length ▸ isKnown)]
          at isTask
        cases isTask
        exact .inr (.leaving turn value _
          (List.mem_append_right _ (List.mem_singleton_self _)) quiet)
      · by_cases isFirst : other = first
        · subst isFirst
          cases isNext.symm.trans isJob
          rw [List.getElem?_modify_eq, List.getElem?_set_ne (Ne.symm isMover), waits] at isTask
          cases isTask
          exact .inr (.working _ _ rfl)
        · rw [List.getElem?_modify_ne _ _ (Ne.symm isFirst), List.getElem?_set_ne (Ne.symm isMover)]
            at isTask
          refine .inl ⟨isMover, isTask, fun isIn => ?_⟩
          rw [queue] at isIn
          exact (List.mem_cons.1 isIn).resolve_left isFirst
  · rw [exchanges_append, List.append_nil]
    simp only [Claimed, holds] at claimed ⊢
    exact guards.enter isNext (guards.leave claimed)

/-- An errand gives the lock back: nobody has it, or the first in the queue has. -/
theorem Explains.release (guards : Guards handler disturbed harmless jobs free held)
    (explains : Explains harmless reports jobs free held events run service)
    {errand : Errand I β α} {value : β} (isErrand : jobs[index]? = some (.errand errand))
    (holds : service.holder = some (index, .done value))
    (quiet : (errand.report value).Quiet harmless (reports index value)) :
    ∃ after, Explains harmless reports jobs free held
      (events ++ [(index, act handler run.state (errand.holding (.done value)))])
      (run.follow handler index turn (errand.holding (.done value))) after := by
  cases queue : service.queue with
  | nil => exact ⟨_, explains.leave guards isErrand holds quiet queue⟩
  | cons first others =>
    have isFirst : first ∈ service.queue := queue ▸ List.mem_cons_self
    obtain ⟨next, isNext, waits⟩ := explains.1.waits isFirst
    exact ⟨_, explains.handOver guards isErrand holds quiet queue isNext waits⟩

/-- An errand at work goes on with its work. -/
theorem Explains.work (guards : Guards handler disturbed harmless jobs free held)
    (explains : Explains harmless reports jobs free held events run service)
    {errand : Errand I β α} {rest : Plan I β} (isErrand : jobs[index]? = some (.errand errand))
    (holds : service.holder = some (index, rest))
    (quiet : ∀ value, (errand.report value).Quiet harmless (reports index value)) :
    ∃ after, Explains harmless reports jobs free held
      (events ++ [(index, act handler run.state (errand.holding rest))])
      (run.follow handler index turn (errand.holding rest)) after := by
  have isKnown : index < jobs.length := (List.getElem?_eq_some_iff.1 isErrand).1
  obtain ⟨serves, claimed⟩ := explains
  simp only [Claimed, holds] at claimed
  have others (later : Plan I β) (other : Nat) (found : Plan I β) (differs : other ≠ index)
      (isHolder : service.holder = some (other, found)) :
      some (index, later) = some (other, found) :=
    absurd (Service.holder_unique holds isHolder) differs
  cases rest with
  | done value =>
    exact Explains.release guards ⟨serves, by simpa only [Claimed, holds]⟩ isErrand holds
      (quiet value)
  | ask question next =>
    refine ⟨{ service with holder := some (index, next (handler question run.state).1) }, ?_, ?_⟩
    · refine serves.move isKnown (by simp [act]) (by simp [act]) ⟨rfl, rfl, by rw [holds]; rfl⟩
        (others _) rfl rfl rfl (fun _ isIn => isIn) fun job isJob => ?_
      cases isErrand.symm.trans isJob
      exact .working turn _ rfl
    · rw [exchanges_append]
      exact guards.ask claimed
  | wait span next =>
    refine ⟨{ service with holder := some (index, next) }, ?_, ?_⟩
    · refine serves.move isKnown (by simp [act]) (by simp [act]) ⟨rfl, rfl, by rw [holds]; rfl⟩
        (others _) rfl rfl rfl (fun _ isIn => isIn) fun job isJob => ?_
      cases isErrand.symm.trans isJob
      exact .working _ _ rfl
    · rw [exchanges_append]
      exact (List.append_nil (exchanges events)).symm ▸ guards.wait claimed
  | stall => exact absurd claimed guards.proceed

/-- Jobs as they set out: what is not work is quiet. -/
structure Orderly (harmless : I.Question → Prop) (reports : Nat → β → α → Prop)
    (jobs : List (Job I β α)) : Prop where
  /-- Plans that leave the lock alone are quiet. -/
  aside {index : Nat} {plan : Plan (Locking.sum I) α} (isJob : jobs[index]? = some (.aside plan)) :
    plan.Quiet harmless fun _ => True
  /-- Errands are quiet before their work. -/
  approach {index : Nat} {errand : Errand I β α} (isJob : jobs[index]? = some (.errand errand)) :
    errand.approach.Quiet harmless fun _ => True
  /-- Errands are quiet after their work and report its value. -/
  report {index : Nat} {errand : Errand I β α} (isJob : jobs[index]? = some (.errand errand))
    (value : β) : (errand.report value).Quiet harmless (reports index value)

/-- When all jobs set out, nobody has asked for the lock. -/
theorem serves_start (orderly : Orderly harmless reports jobs) (state : σ) :
    Serves harmless reports jobs []
      (Concurrent.start (jobs.map Job.plan) state) ⟨[], none, []⟩ where
  arrived := rfl
  departed := rfl
  once := List.nodup_nil
  queued := rfl
  locked := rfl
  idle _ := rfl
  known _ isIn := nomatch isIn
  length := by simp [Concurrent.start]
  place index job task isJob isTask := by
    simp only [Concurrent.start, List.getElem?_mapIdx, List.getElem?_map, isJob, Option.map_some,
      Option.some.injEq] at isTask
    subst isTask
    cases job with
    | aside plan => exact .aside _ _ (orderly.aside isJob) List.not_mem_nil
    | errand errand => exact .approaching _ _ (orderly.approach isJob) List.not_mem_nil

/-- **Errands under a guarded lock.** At every instant of every interleaving a service explains
who has been served, who is at work and who waits, and what is claimed about the surroundings
holds. The proof follows the interleaving; each move is one of its mover's place. -/
theorem Interleaving.explained (guards : Guards handler disturbed harmless jobs free held)
    (orderly : Orderly harmless reports jobs) {state : σ} (sound : free [] [] state)
    {schedule : Schedule I σ α}
    (interleaving : Interleaving handler disturbed schedule
      (Concurrent.start (jobs.map Job.plan) state) events run) :
    ∃ service, Explains harmless reports jobs free held events run service := by
  induction interleaving with
  | start => exact ⟨⟨[], none, []⟩, serves_start orderly state, sound⟩
  | disturb before change inductionHypothesis =>
    obtain ⟨service, serves, claimed⟩ := inductionHypothesis
    refine ⟨service, ⟨serves.arrived, serves.departed, serves.once, serves.queued, serves.locked,
      serves.idle, serves.known, serves.length, serves.place⟩, ?_⟩
    cases holder : service.holder with
    | none =>
      simp only [Claimed, holder] at claimed ⊢
      exact guards.disturbFree change claimed
    | some held =>
      simp only [Claimed, holder] at claimed ⊢
      exact guards.disturbHeld change claimed
  | @move events run before index turn plan allowed due inductionHypothesis =>
    obtain ⟨service, serves, claimed⟩ := inductionHypothesis
    have isKnown : index < jobs.length := serves.length ▸ (List.getElem?_eq_some_iff.1 due).1
    have isJob : jobs[index]? = some jobs[index] := List.getElem?_eq_getElem isKnown
    generalize jobs[index] = job at isJob
    cases serves.place index job _ isJob due with
    | aside _ _ quiet isNew =>
      exact ⟨service, Explains.quiet guards ⟨serves, claimed⟩ isKnown quiet
        (fun _ _ _ later found => by
          cases isJob.symm.trans found
          exact .aside _ _ later isNew)
        (fun _ _ _ _ found => by
          cases isJob.symm.trans found
          exact .gone isNew)⟩
    | approaching _ approach quiet isNew =>
      cases approach with
      | done value => exact Explains.request guards ⟨serves, claimed⟩ isJob isNew
      | ask question next =>
        cases question with
        | inl request => exact quiet.elim
        | inr question =>
          exact ⟨service, Explains.ask guards ⟨serves, claimed⟩ isKnown quiet.1
            fun answer _ found => by
              cases isJob.symm.trans found
              exact .approaching turn (next answer) (quiet.2 answer) isNew⟩
      | wait span next =>
        exact ⟨service, Explains.pause ⟨serves, claimed⟩ isKnown rfl rfl rfl rfl rfl
          (fun _ isIn => isIn) fun _ found => by
            cases isJob.symm.trans found
            exact .approaching _ next quiet isNew⟩
      | stall => exact quiet.elim
    | working _ rest holds =>
      exact Explains.work guards ⟨serves, claimed⟩ isJob holds fun value =>
        orderly.report isJob value
    | leaving _ value rest done quiet =>
      exact ⟨service, Explains.quiet guards ⟨serves, claimed⟩ isKnown quiet
        (fun _ _ _ later found => by
          cases isJob.symm.trans found
          exact .leaving _ value _ done later)
        (fun _ last _ reported found => by
          cases isJob.symm.trans found
          exact .closed _ value done (List.mem_append_right _ (List.mem_singleton_self _)) rfl
            reported)⟩

end Guarded

end Concurrent

end NodeScaler
