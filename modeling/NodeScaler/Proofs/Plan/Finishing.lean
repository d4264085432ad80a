import NodeScaler.Proofs.Plan.Service

/-!
# How errands finish

When nothing can go on any more, every errand has been served and has reported, and nobody has
the lock. If moreover no plan moves while another one is active, and errands report without
waiting, they finish in the order in which they were served: between giving the lock back and
its last report an errand is active all the time, so nobody can overtake it.
-/

namespace NodeScaler.Concurrent

variable {I : Interface} {σ α β : Type} {handler : Handler I σ} {disturbed : σ → σ → Prop}
  {schedule : Schedule I σ α} {harmless : I.Question → Prop} {reports : Nat → β → α → Prop}
  {jobs : List (Job I β α)} {free : List (Nat × β) → List (Nat × Exchange I) → σ → Prop}
  {held : List (Nat × β) → List (Nat × Exchange I) → Nat → Plan I β → σ → Prop}
  {events : List (Nat × Act I)} {run : Concurrent I σ α} {service : Service I β}

/-- In the end nobody has the lock and nobody waits for it. -/
theorem Serves.idle_of_over (serves : Serves harmless reports jobs events run service)
    (isOver : run.Over) : service.holder = none ∧ service.queue = [] := by
  cases holder : service.holder with
  | none => exact ⟨rfl, serves.idle holder⟩
  | some held =>
    obtain ⟨_, turn, _, due⟩ := serves.works holder
    exact absurd due (isOver _ turn _)

/-- In the end every errand has been served and has reported the value of its work. -/
theorem Serves.finished_of_over (serves : Serves harmless reports jobs events run service)
    (isOver : run.Over) {index : Nat} {errand : Errand I β α}
    (isErrand : jobs[index]? = some (.errand errand)) :
    ∃ value, (index, value) ∈ service.served ∧
      ∃ finish ∈ run.finished, finish.index = index ∧ reports index value finish.value := by
  obtain ⟨noHolder, noQueue⟩ := serves.idle_of_over isOver
  obtain ⟨task, isTask⟩ : ∃ task, run.tasks[index]? = some task :=
    ⟨_, List.getElem?_eq_getElem (serves.length ▸ (List.getElem?_eq_some_iff.1 isErrand).1)⟩
  cases serves.place index _ task isErrand isTask with
  | approaching turn | working turn | leaving turn => exact absurd isTask (isOver _ turn _)
  | queued waits => exact nomatch noQueue ▸ waits
  | closed finish value done listed own reported =>
    exact ⟨value, done, finish, listed, own, reported⟩

/-- Only errands ask for the lock. -/
theorem Serves.isErrand_of_arrived (serves : Serves harmless reports jobs events run service)
    {index : Nat} (arrived : index ∈ service.arrived) :
    ∃ errand, jobs[index]? = some (.errand errand) := by
  obtain ⟨job, task, isJob, -, place⟩ := serves.exists_place arrived
  cases place with
  | aside _ _ _ isNew | gone isNew => exact absurd arrived isNew
  | approaching | queued | working | leaving | closed => exact ⟨_, isJob⟩

/-- The job of this number is an errand. -/
def IsErrand (jobs : List (Job I β α)) (index : Nat) : Bool :=
  match jobs[index]? with
  | some (.errand _) => true
  | _ => false

/-- The errands that have ended, in the order in which they did. -/
def finishers (jobs : List (Job I β α)) (run : Concurrent I σ α) : List Nat :=
  (run.finished.map (·.index)).filter (IsErrand jobs)

/-- Those who have given the lock back have finished in this order, but for one who is still
active and reports at once. -/
def Orderliness (jobs : List (Job I β α)) (events : List (Nat × Act I))
    (run : Concurrent I σ α) : Prop :=
  finishers jobs run = departures events ∨
    ∃ last turn rest, finishers jobs run ++ [last] = departures events ∧
      run.active = some last ∧ run.tasks[last]? = some (.due turn rest) ∧ rest.Prompt

/-- A move that neither ends an errand nor gives the lock back keeps the finishers in order. -/
theorem finishers_follow {index : Nat} {turn : Turn} {plan : Plan (Locking.sum I) α}
    (goesOn : ∀ value, plan = .done value → IsErrand jobs index = false) :
    finishers jobs (run.follow handler index turn plan) = finishers jobs run := by
  unfold finishers
  rw [finished_follow]
  cases plan with
  | done value => simp [goesOn value rfl]
  | ask | wait | stall => simp

/-- An errand that has given the lock back and is active goes on to its end without waiting. -/
theorem Orderliness.report {index : Nat} {turn : Turn} {rest : Plan (Locking.sum I) α}
    {kind : α → Prop} (due : run.tasks[index]? = some (.due turn rest))
    (isErrand : IsErrand jobs index = true) (quiet : rest.Quiet harmless kind)
    (prompt : rest.Prompt) (order : finishers jobs run ++ [index] = departures events) :
    Orderliness jobs (events ++ [(index, act handler run.state rest)])
      (run.follow handler index turn rest) := by
  have isKnown : index < run.tasks.length := (List.getElem?_eq_some_iff.1 due).1
  cases rest with
  | done value =>
    refine .inl ?_
    rw [departures_append, ← order, finishers, finished_follow]
    simp [finishers, act, isErrand]
  | ask question next =>
    cases question with
    | inl request => exact quiet.elim
    | inr question =>
      have kept : finishers jobs (run.follow handler index turn (.ask (.inr question) next)) =
          finishers jobs run := finishers_follow fun _ isDone => by cases isDone
      refine .inr ⟨index, turn, _, ?_, rfl, List.getElem?_set_self isKnown, prompt _⟩
      rw [departures_append, kept]
      simpa [act] using order
  | wait span next => exact prompt.elim
  | stall => exact prompt.elim

/-- Moves of plans that neither give the lock back nor are errands with work done keep the
order. -/
theorem Orderliness.other {index : Nat} {turn : Turn} {plan : Plan (Locking.sum I) α}
    (order : finishers jobs run = departures events)
    (notReturn : act handler run.state plan ≠ .returns)
    (goesOn : ∀ value, plan = .done value → IsErrand jobs index = false) :
    Orderliness jobs (events ++ [(index, act handler run.state plan)])
      (run.follow handler index turn plan) := by
  refine .inl ?_
  rw [finishers_follow goesOn, departures_append, order]
  split
  · next isReturn => exact absurd isReturn notReturn
  · exact (List.append_nil _).symm

/-- A quiet plan does not give the lock back. -/
theorem act_ne_returns {plan : Plan (Locking.sum I) α} {kind : α → Prop} {state : σ}
    (quiet : plan.Quiet harmless kind) : act handler state plan ≠ .returns := by
  cases plan with
  | ask question next =>
    cases question with
    | inl request => exact quiet.elim
    | inr question => simp [act]
  | done | wait | stall => simp [act]

/-- When all who have given the lock back have finished, nobody finishes with the next move but those
who never had the lock, and an errand that gives it back now is active. -/
theorem Orderliness.move (serves : Serves harmless reports jobs events run service) {index : Nat}
    {turn : Turn} {plan : Plan (Locking.sum I) α} (due : run.tasks[index]? = some (.due turn plan))
    (ended : ∀ finish ∈ run.finished, run.tasks[finish.index]? = some .ended)
    (prompt : ∀ (errand : Errand I β α), jobs[index]? = some (.errand errand) →
      ∀ value, (errand.report value).Prompt)
    (order : finishers jobs run = departures events) :
    Orderliness jobs (events ++ [(index, act handler run.state plan)])
      (run.follow handler index turn plan) := by
  have hasTask : index < run.tasks.length := (List.getElem?_eq_some_iff.1 due).1
  have isKnown : index < jobs.length := serves.length ▸ hasTask
  have isJob : jobs[index]? = some jobs[index] := List.getElem?_eq_getElem isKnown
  generalize jobs[index] = job at isJob
  cases serves.place index job _ isJob due with
  | aside _ _ quiet isNew =>
    exact Orderliness.other order (act_ne_returns quiet) fun _ _ => by simp [IsErrand, isJob]
  | approaching _ approach quiet isNew =>
    cases approach with
    | done | wait =>
      exact Orderliness.other order (fun isReturn => by cases isReturn) fun _ isDone => by cases isDone
    | ask question next =>
      cases question with
      | inl request => exact quiet.elim
      | inr question =>
        exact Orderliness.other order (fun isReturn => by cases isReturn)
          fun _ isDone => by cases isDone
    | stall => exact quiet.elim
  | @working errand _ rest holds =>
    cases rest with
    | done value =>
      refine .inr ⟨index, turn, errand.report value, ?_, ?_, ?_, prompt _ isJob value⟩
      · rw [finishers_follow (fun _ isDone => by simp at isDone), departures_append, order]
        rfl
      · rw [Errand.holding_done, follow, handOn]
        split <;> rfl
      · exact tasks_handOn _ (List.getElem?_set_self hasTask) fun _ => rfl
    | ask | wait =>
      exact Orderliness.other order (by simp [act]) fun _ isDone => by cases isDone
    | stall =>
      exact Orderliness.other order (fun isReturn => by cases isReturn)
        fun _ isDone => by cases isDone
  | leaving _ value rest done quiet =>
    -- it has finished already, so it cannot move
    have isIn : index ∈ finishers jobs run := by
      rw [order, serves.departed]
      exact List.mem_map.2 ⟨_, done, rfl⟩
    obtain ⟨finish, listed, own⟩ := List.mem_map.1 (List.mem_filter.1 isIn).1
    have isEnded := ended finish listed
    rw [own, due] at isEnded
    cases isEnded

/-- When an errand that has given the lock back has still to finish and is active, it is the one that
moves. -/
theorem Orderliness.goOn (serves : Serves harmless reports jobs events run service) {last : Nat}
    {turn : Turn} {rest : Plan (Locking.sum I) α} (due : run.tasks[last]? = some (.due turn rest))
    (order : finishers jobs run ++ [last] = departures events) (prompt : rest.Prompt) :
    Orderliness jobs (events ++ [(last, act handler run.state rest)])
      (run.follow handler last turn rest) := by
  have isServed : last ∈ service.served.map (·.1) := by
    rw [← serves.departed, ← order]
    exact List.mem_append_right _ (List.mem_singleton_self _)
  have arrived : last ∈ service.arrived :=
    List.mem_append_left _ (List.mem_append_left _ isServed)
  obtain ⟨job, task, isJob, isTask, place⟩ := serves.exists_place arrived
  cases due.symm.trans isTask
  cases place with
  | aside _ _ _ isNew | approaching _ _ _ isNew => exact absurd arrived isNew
  | working _ rest holds => exact absurd isServed (serves.apart_of_holder holds).2
  | leaving _ value rest done quiet =>
    exact Orderliness.report due (by simp [IsErrand, isJob]) quiet prompt order

/-- Errands that report without waiting finish in the order in which they give the lock back,
if plans move in turn. -/
theorem Interleaving.orderly (guards : Guards handler disturbed harmless jobs free held)
    (orderly : Orderly harmless reports jobs) {state : σ} (sound : free [] [] state)
    (inTurn : schedule.InTurn)
    (prompt : ∀ (index : Nat) (errand : Errand I β α), jobs[index]? = some (.errand errand) →
      ∀ value, (errand.report value).Prompt)
    (interleaving : Interleaving handler disturbed schedule
      (Concurrent.start (jobs.map Job.plan) state) events run) :
    Orderliness jobs events run := by
  induction interleaving with
  | start => exact .inl rfl
  | disturb before change inductionHypothesis => exact inductionHypothesis
  | @move events run before index turn plan allowed due inductionHypothesis =>
    obtain ⟨service, serves, -⟩ := before.explained guards orderly sound
    rcases inductionHypothesis with order | ⟨last, lastTurn, rest, order, active, lastDue, swift⟩
    · exact Orderliness.move serves due (fun _ listed => before.ended listed) (prompt index) order
    · -- plans move in turn, so nobody but the active one may move
      have same : last = index := by
        rcases inTurn run index allowed with none | some
        · cases none.symm.trans active
        · exact Option.some.inj (active.symm.trans some)
      subst same
      cases due.symm.trans lastDue
      exact Orderliness.goOn serves due order swift

/-- In the end all errands have finished in the order in which they asked for the lock. -/
theorem Interleaving.finishers (guards : Guards handler disturbed harmless jobs free held)
    (orderly : Orderly harmless reports jobs) {state : σ} (sound : free [] [] state)
    (inTurn : schedule.InTurn)
    (prompt : ∀ (index : Nat) (errand : Errand I β α), jobs[index]? = some (.errand errand) →
      ∀ value, (errand.report value).Prompt)
    (interleaving : Interleaving handler disturbed schedule
      (Concurrent.start (jobs.map Job.plan) state) events run) (isOver : run.Over) :
    Concurrent.finishers jobs run = arrivals events := by
  obtain ⟨service, serves, -⟩ := interleaving.explained guards orderly sound
  obtain ⟨noHolder, noQueue⟩ := serves.idle_of_over isOver
  rcases interleaving.orderly guards orderly sound inTurn prompt with order | ⟨last, turn, rest, h⟩
  · rw [order, serves.departed, serves.arrived, Service.arrived, noHolder, noQueue]
    simp
  · exact absurd h.2.2.1 (isOver last turn rest)

end NodeScaler.Concurrent
