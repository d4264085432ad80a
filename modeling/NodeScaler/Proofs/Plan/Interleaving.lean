import Mathlib.Data.List.Basic
import NodeScaler.Plan.Concurrent
import NodeScaler.Proofs.Plan.Transcript

/-!
# Interleavings

When several plans can go on, the clock decides which one does. Here anything may decide: a
schedule says which plans may go on at some instant, and an interleaving is any run that keeps
to it. In between, something else may change the state of the surroundings at any time. What
holds of every interleaving holds whenever the plans set out and however long their waits are;
the run by the clock is one of them.

An interleaving is told by its events: which plan asked for the lock, which one gave it back,
and which one exchanged what with the surroundings, in this order.
-/

namespace NodeScaler.Concurrent

variable {I : Interface} {σ α : Type}

/-- What a plan does when it goes on. -/
inductive Act (I : Interface) where
  /-- It asks for the lock. -/
  | requests
  /-- It gives the lock back. -/
  | returns
  /-- It asks the surroundings something and is answered. -/
  | exchanges (exchange : Exchange I)
  /-- It does neither: it begins to wait, or it ends. -/
  | pauses

/-- What a plan does next. -/
def act (handler : Handler I σ) (state : σ) : Plan (Locking.sum I) α → Act I
  | .ask (.inl .acquire) _ => .requests
  | .ask (.inl .release) _ => .returns
  | .ask (.inr question) _ => .exchanges ⟨question, (handler question state).1⟩
  | .done _ | .wait _ _ | .stall => .pauses

/-- Who may go on. -/
abbrev Schedule (I : Interface) (σ α : Type) : Type := Concurrent I σ α → Nat → Prop

/-- A plan goes on until it waits, and meanwhile no other plan moves. -/
def Schedule.InTurn (schedule : Schedule I σ α) : Prop :=
  ∀ run index, schedule run index → run.active = none ∨ run.active = some index

/-- The schedule of the clock. -/
def Schedule.clock : Schedule I σ α := fun run index => run.next = some index

/-- Anything that happens from a first state on: its events, and the state it leads to. The
surroundings may be disturbed at any time. -/
inductive Interleaving (handler : Handler I σ) (disturbed : σ → σ → Prop)
    (schedule : Schedule I σ α) (first : Concurrent I σ α) :
    List (Nat × Act I) → Concurrent I σ α → Prop where
  /-- Nothing has happened. -/
  | start : Interleaving handler disturbed schedule first [] first
  /-- A plan that may go on does so. -/
  | move {events : List (Nat × Act I)} {run : Concurrent I σ α}
      (before : Interleaving handler disturbed schedule first events run) {index : Nat}
      {turn : Turn} {plan : Plan (Locking.sum I) α} (allowed : schedule run index)
      (due : run.tasks[index]? = some (.due turn plan)) :
      Interleaving handler disturbed schedule first
        (events ++ [(index, act handler run.state plan)]) (run.follow handler index turn plan)
  /-- The surroundings are disturbed. -/
  | disturb {events : List (Nat × Act I)} {run : Concurrent I σ α} {state : σ}
      (before : Interleaving handler disturbed schedule first events run)
      (change : disturbed run.state state) :
      Interleaving handler disturbed schedule first events { run with state }

/-- The plans that have asked for the lock, in the order in which they asked. -/
def arrivals (events : List (Nat × Act I)) : List Nat :=
  events.filterMap fun
    | (index, .requests) => some index
    | _ => none

/-- The plans that have given the lock back, in the order in which they did. -/
def departures (events : List (Nat × Act I)) : List Nat :=
  events.filterMap fun
    | (index, .returns) => some index
    | _ => none

/-- What was exchanged with the surroundings, and by whom. -/
def exchanges (events : List (Nat × Act I)) : List (Nat × Exchange I) :=
  events.filterMap fun
    | (index, .exchanges exchange) => some (index, exchange)
    | _ => none

/-- The plan has the lock: it has asked for it, is not queued for it any more, and has not
given it back. -/
def Inside (events : List (Nat × Act I)) (run : Concurrent I σ α) (index : Nat) : Prop :=
  index ∈ arrivals events ∧ index ∉ run.queue ∧ index ∉ departures events

/-- Nothing can go on. -/
def Over (run : Concurrent I σ α) : Prop :=
  ∀ (index : Nat) (turn : Turn) (plan : Plan (Locking.sum I) α),
    run.tasks[index]? ≠ some (.due turn plan)

/-! ## Single events -/

@[simp] theorem arrivals_nil : arrivals ([] : List (Nat × Act I)) = [] := rfl

@[simp] theorem departures_nil : departures ([] : List (Nat × Act I)) = [] := rfl

@[simp] theorem exchanges_nil : exchanges ([] : List (Nat × Act I)) = [] := rfl

/-- Only asking for the lock makes an arrival. -/
@[simp] theorem arrivals_append (events : List (Nat × Act I)) (index : Nat) (act : Act I) :
    arrivals (events ++ [(index, act)]) = arrivals events ++ (match act with
      | .requests => [index]
      | _ => []) := by
  cases act <;> simp [arrivals]

/-- Only giving the lock back makes a departure. -/
@[simp] theorem departures_append (events : List (Nat × Act I)) (index : Nat) (act : Act I) :
    departures (events ++ [(index, act)]) = departures events ++ (match act with
      | .returns => [index]
      | _ => []) := by
  cases act <;> simp [departures]

/-- Only an exchange is added to the exchanges. -/
@[simp] theorem exchanges_append (events : List (Nat × Act I)) (index : Nat) (act : Act I) :
    exchanges (events ++ [(index, act)]) = exchanges events ++ (match act with
      | .exchanges exchange => [(index, exchange)]
      | _ => []) := by
  cases act <;> simp [exchanges]

/-! ## Tasks -/

/-- Handing the lock on changes only a task that is queued for it. -/
theorem tasks_handOn (run : Concurrent I σ α) {index : Nat} {task : Task I α}
    (isTask : run.tasks[index]? = some task) (notQueued : ∀ turn, task.wake turn = task) :
    run.handOn.tasks[index]? = some task := by
  unfold handOn
  split
  · exact isTask
  · next first others queue =>
    simp only [List.getElem?_modify, isTask, Option.map_eq_map, Option.map_some]
    split
    · rw [notQueued]
    · rfl

/-- A plan that has the turn keeps it, or waits, or has ended. -/
theorem active_follow (handler : Handler I σ) (run : Concurrent I σ α) {index : Nat} {turn : Turn}
    {plan : Plan (Locking.sum I) α} (due : run.tasks[index]? = some (.due turn plan)) :
    (run.follow handler index turn plan).active = none ∨
      (run.follow handler index turn plan).active = some index ∧
        ∃ rest, (run.follow handler index turn plan).tasks[index]? = some (.due turn rest) := by
  have isKnown : index < run.tasks.length := (List.getElem?_eq_some_iff.1 due).1
  cases plan with
  | done value => exact .inl rfl
  | wait span rest => exact .inl rfl
  | stall => exact .inl rfl
  | ask question rest =>
    match question with
    | .inr question => exact .inr ⟨rfl, _, List.getElem?_set_self isKnown⟩
    | .inl .acquire =>
      rw [follow]
      split
      · exact .inl rfl
      · exact .inr ⟨rfl, _, List.getElem?_set_self isKnown⟩
    | .inl .release =>
      refine .inr ⟨?_, _, tasks_handOn _ (List.getElem?_set_self isKnown) fun _ => rfl⟩
      rw [follow, handOn]
      split <;> rfl

/-- A plan that has ended stays so while others move. -/
theorem ended_follow (handler : Handler I σ) (run : Concurrent I σ α) {index other : Nat}
    {turn : Turn} {plan : Plan (Locking.sum I) α} (differs : index ≠ other)
    (ended : run.tasks[other]? = some .ended) :
    (run.follow handler index turn plan).tasks[other]? = some .ended := by
  have kept (task : Task I α) : (run.tasks.set index task)[other]? = some .ended := by
    rw [List.getElem?_set_ne differs, ended]
  cases plan with
  | done value => exact kept _
  | wait span rest => exact kept _
  | stall => exact kept _
  | ask question rest =>
    match question with
    | .inr question => exact kept _
    | .inl .acquire =>
      rw [follow]
      split <;> exact kept _
    | .inl .release => exact tasks_handOn _ (kept _) fun _ => rfl

/-- Only a plan that is done is added to those that have ended. -/
theorem finished_follow (handler : Handler I σ) (run : Concurrent I σ α) (index : Nat) (turn : Turn)
    (plan : Plan (Locking.sum I) α) :
    (run.follow handler index turn plan).finished = run.finished ++ (match plan with
      | .done value => [⟨index, turn.instant, value⟩]
      | _ => []) := by
  cases plan with
  | done value => rfl
  | wait span rest => exact (List.append_nil _).symm
  | stall => exact (List.append_nil _).symm
  | ask question rest =>
    rw [List.append_nil]
    match question with
    | .inr question => rfl
    | .inl .acquire =>
      rw [follow]
      split <;> rfl
    | .inl .release =>
      rw [follow, handOn]
      split <;> rfl

variable {handler : Handler I σ} {disturbed : σ → σ → Prop} {schedule : Schedule I σ α}
  {plans : List (Plan (Locking.sum I) α)} {state : σ} {events : List (Nat × Act I)}
  {run : Concurrent I σ α}

/-- The plan that is active can go on. -/
theorem Interleaving.active (interleaving : Interleaving handler disturbed schedule
    (Concurrent.start plans state) events run) {index : Nat} (active : run.active = some index) :
    ∃ turn plan, run.tasks[index]? = some (.due turn plan) := by
  induction interleaving with
  | start => exact nomatch active
  | disturb before change inductionHypothesis => exact inductionHypothesis active
  | move before allowed due inductionHypothesis =>
    rcases active_follow handler _ due with none | ⟨same, rest, found⟩
    · exact nomatch none.symm.trans active
    · cases same.symm.trans active
      exact ⟨_, rest, found⟩

/-- Nothing is left of a plan that has a value. -/
theorem Interleaving.ended (interleaving : Interleaving handler disturbed schedule
    (Concurrent.start plans state) events run) {finish : Finish α}
    (isIn : finish ∈ run.finished) : run.tasks[finish.index]? = some .ended := by
  induction interleaving with
  | start => exact nomatch isIn
  | disturb before change inductionHypothesis => exact inductionHypothesis isIn
  | @move events run before index turn plan allowed due inductionHypothesis =>
    rw [finished_follow, List.mem_append] at isIn
    rcases isIn with isIn | isNew
    · have ended := inductionHypothesis isIn
      have differs : index ≠ finish.index := fun same => by
        rw [← same, due] at ended
        cases ended
      exact ended_follow handler run differs ended
    · split at isNew
      · cases List.mem_singleton.1 isNew
        exact List.getElem?_set_self (List.getElem?_eq_some_iff.1 due).1
      · cases isNew

/-- No plan ends twice. -/
theorem Interleaving.once (interleaving : Interleaving handler disturbed schedule
    (Concurrent.start plans state) events run) : (run.finished.map (·.index)).Nodup := by
  induction interleaving with
  | start => exact List.nodup_nil
  | disturb before change inductionHypothesis => exact inductionHypothesis
  | @move events run before index turn plan allowed due inductionHypothesis =>
    rw [finished_follow, List.map_append]
    cases plan with
    | done value =>
      refine List.nodup_append.2 ⟨inductionHypothesis, by simp, fun one isIn other isLast same => ?_⟩
      obtain ⟨finish, listed, own⟩ := List.mem_map.1 isIn
      have ended := before.ended listed
      rw [own, same, List.mem_singleton.1 isLast, due] at ended
      cases ended
    | ask | wait | stall => simpa using inductionHypothesis

/-! ## The run by the clock -/

/-- The clock never moves a plan while another one is active. -/
theorem clock_inTurn : (Schedule.clock : Schedule I σ α).InTurn := by
  intro run index isNext
  cases active : run.active with
  | none => exact .inl rfl
  | some other =>
    have same : other = index := by simpa [Schedule.clock, next, active] using isNext
    exact .inr (congrArg some same)

/-- A task that can go on has an earliest turn beside it, or has the earliest itself. -/
theorem earliest_isSome {tasks : List (Task I α)} {task : Task I α} (isIn : task ∈ tasks)
    (hasTurn : task.turn?.isSome) : (earliest tasks).isSome := by
  induction tasks with
  | nil => exact nomatch isIn
  | cons first rest inductionHypothesis =>
    rw [earliest]
    rcases List.mem_cons.1 isIn with rfl | later
    · obtain ⟨turn, isTurn⟩ := Option.isSome_iff_exists.1 hasTurn
      rw [isTurn]
      cases earliest rest with
      | none => rfl
      | some other => dsimp only; split <;> rfl
    · obtain ⟨other, isOther⟩ := Option.isSome_iff_exists.1 (inductionHypothesis later)
      rw [isOther]
      cases first.turn? with
      | none => rfl
      | some turn => dsimp only; split <;> rfl

/-- The earliest task can go on. -/
theorem due_of_earliest {tasks : List (Task I α)} {index : Nat} {turn : Turn}
    (isEarliest : earliest tasks = some (index, turn)) :
    ∃ plan, tasks[index]? = some (.due turn plan) := by
  induction tasks generalizing index turn with
  | nil => exact nomatch isEarliest
  | cons first rest inductionHypothesis =>
    have here {own : Turn} (hasTurn : first.turn? = some own) :
        ∃ plan, (first :: rest)[0]? = some (.due own plan) := by
      cases first with
      | due other plan =>
        cases hasTurn
        exact ⟨plan, rfl⟩
      | queued | ended => cases hasTurn
    rw [earliest] at isEarliest
    cases own : first.turn? with
    | none =>
      rw [own] at isEarliest
      obtain ⟨⟨later, other⟩, isLater, same⟩ := Option.map_eq_some_iff.1 isEarliest
      cases same
      exact inductionHypothesis isLater
    | some ownTurn =>
      rw [own] at isEarliest
      cases isLater : earliest rest with
      | none =>
        rw [isLater] at isEarliest
        cases isEarliest
        exact here own
      | some found =>
        rw [isLater] at isEarliest
        dsimp only at isEarliest
        split at isEarliest
        · cases isEarliest
          exact here own
        · cases isEarliest
          exact inductionHypothesis isLater

/-- When the clock has nothing left to do, nothing can go on. -/
theorem Interleaving.over (interleaving : Interleaving handler disturbed schedule
    (Concurrent.start plans state) events run) (none : run.step? handler = none) : run.Over := by
  intro index turn plan due
  have stuck (other : Nat) (otherTurn : Turn) (rest : Plan (Locking.sum I) α)
      (isNext : run.next = some other) (found : run.tasks[other]? = some (.due otherTurn rest)) :
      False := by
    rw [step?, isNext] at none
    simp [found] at none
  cases active : run.active with
  | some other =>
    obtain ⟨otherTurn, rest, found⟩ := interleaving.active active
    exact stuck other otherTurn rest (by rw [next, active]; rfl) found
  | none =>
    have isSome : (earliest run.tasks).isSome :=
      earliest_isSome (List.mem_of_getElem? due) rfl
    obtain ⟨⟨other, otherTurn⟩, isEarliest⟩ := Option.isSome_iff_exists.1 isSome
    obtain ⟨rest, found⟩ := due_of_earliest isEarliest
    exact stuck other otherTurn rest (by rw [next, active, isEarliest]; rfl) found

/-- The clock leads every run to its end: it is an interleaving after which nothing can go on. -/
theorem complete_interleaving
    (interleaving : Interleaving handler disturbed .clock (Concurrent.start plans state) events run) :
    ∃ all, Interleaving handler disturbed .clock (Concurrent.start plans state) all
      (run.complete handler) ∧ (run.complete handler).Over := by
  induction run using (precedes_wellFounded handler).induction generalizing events with
  | _ run inductionHypothesis =>
    rw [complete]
    split
    · next ended => exact ⟨events, interleaving, interleaving.over ended⟩
    · next later step =>
      obtain ⟨index, isNext, moved⟩ := Option.bind_eq_some_iff.1 step
      split at moved
      · next turn plan due =>
        cases moved
        exact inductionHypothesis _ step (interleaving.move isNext due)
      · cases moved

end NodeScaler.Concurrent
