import NodeScaler.Plan.Run

/-!
# Plans side by side

Several plans share their surroundings, a clock and one lock. A plan goes on until it
waits, for time or for the lock, and meanwhile no other plan moves. When every plan waits
for time, the clock moves to the earliest end of a wait. Of several plans that can go on at
one instant the first of the list goes first, and the others in the order in which they began
to wait. Who finds the lock taken is queued, and a release hands the lock on to the first in
the queue at once, so it is served in order of arrival.

A single step follows one plan through one of its questions or waits. Each step leaves less
of that plan and no more of the others, so every run ends.
-/

namespace NodeScaler

/-- What is asked about the lock. -/
inductive LockRequest where
  /-- To have the lock. -/
  | acquire
  /-- To give it back. -/
  | release
deriving DecidableEq, Repr

/-- The lock. Having it and giving it back is all there is to know. -/
abbrev Locking : Interface := ⟨LockRequest, fun _ => Unit⟩

/-- The lock when nobody else wants it. -/
def Locking.uncontended : Handler Locking Unit := fun _ state => ((), state)

/-- When a plan goes on. -/
structure Turn where
  /-- The instant. -/
  instant : Duration
  /-- Its place among those that go on at this instant. -/
  place : Nat
deriving DecidableEq, Repr

/-- One turn comes before another, or both are the same. -/
def Turn.comesFirst (first second : Turn) : Bool :=
  first.instant.nanoseconds < second.instant.nanoseconds ||
    (first.instant == second.instant && first.place ≤ second.place)

/-- A plan among others. -/
inductive Task (I : Interface) (α : Type) where
  /-- It goes on with the plan at its turn. -/
  | due (turn : Turn) (plan : Plan (Locking.sum I) α)
  /-- It goes on with the plan once it is given the lock. -/
  | queued (plan : Plan (Locking.sum I) α)
  /-- Nothing is left of it. -/
  | ended

namespace Task

variable {I : Interface} {α : Type}

/-- The turn of the task, unless it waits for the lock. -/
def turn? : Task I α → Option Turn
  | due turn _ => some turn
  | _ => none

/-- What is left of the task. -/
def remains : Task I α → Option (Plan (Locking.sum I) α)
  | due _ plan | queued plan => some plan
  | ended => none

/-- Gives the task the lock that it is queued for. -/
def wake (turn : Turn) : Task I α → Task I α
  | queued plan => due turn plan
  | task => task

/-- Being given the lock leaves as much to do as before. -/
theorem remains_wake (turn : Turn) (task : Task I α) : (task.wake turn).remains = task.remains := by
  cases task <;> rfl

end Task

/-- A plan that has ended with a value. -/
structure Finish (α : Type) where
  /-- Its place in the list of plans. -/
  index : Nat
  /-- The instant at which it ended. -/
  instant : Duration
  /-- Its value. -/
  value : α

/-- Plans side by side, at some instant of their run. -/
structure Concurrent (I : Interface) (σ α : Type) where
  /-- The plans. -/
  tasks : List (Task I α)
  /-- The plan that goes on without waiting. -/
  active : Option Nat
  /-- The number of waits begun so far. -/
  waits : Nat
  /-- Some plan has the lock. -/
  locked : Bool
  /-- The plans queued for the lock, the first one in front. -/
  queue : List Nat
  /-- The state of the surroundings. -/
  state : σ
  /-- The instant. -/
  now : Duration
  /-- The plans that have ended, in this order. -/
  finished : List (Finish α)

namespace Concurrent

variable {I : Interface} {σ α : Type}

/-- Plans that all set out together, in the order of the list, with nobody having the lock. -/
def start (plans : List (Plan (Locking.sum I) α)) (state : σ) : Concurrent I σ α where
  tasks := plans.mapIdx fun index plan => .due ⟨.zero, index⟩ plan
  active := none
  waits := plans.length
  locked := false
  queue := []
  state := state
  now := .zero
  finished := []

/-- The task with the earliest turn, and that turn. -/
def earliest : List (Task I α) → Option (Nat × Turn)
  | [] => none
  | task :: rest =>
    match task.turn?, earliest rest with
    | none, later => later.map fun (index, turn) => (index + 1, turn)
    | some turn, none => some (0, turn)
    | some turn, some (index, other) =>
      if turn.comesFirst other then some (0, turn) else some (index + 1, other)

/-- The task to go on with: the one that does not wait, or else the earliest. -/
def next (run : Concurrent I σ α) : Option Nat :=
  run.active.or ((earliest run.tasks).map (·.1))

/-- The turn of a plan that begins to wait until an instant. -/
def turnAt (run : Concurrent I σ α) (index : Nat) (instant : Duration) : Turn :=
  ⟨instant, if index = 0 then 0 else run.waits⟩

/-- Hands the lock to the first in the queue, or leaves it free. -/
def handOn (run : Concurrent I σ α) : Concurrent I σ α :=
  match run.queue with
  | [] => { run with locked := false }
  | first :: rest =>
    { run with
      tasks := run.tasks.modify first (·.wake (run.turnAt first run.now))
      waits := run.waits + 1, queue := rest }

/-- Follows the plan of a task whose turn it is through one question or wait. -/
def follow (handler : Handler I σ) (run : Concurrent I σ α) (index : Nat) (turn : Turn) :
    Plan (Locking.sum I) α → Concurrent I σ α
  | .done value =>
    { run with
      tasks := run.tasks.set index .ended, active := none, now := turn.instant
      finished := run.finished ++ [⟨index, turn.instant, value⟩] }
  | .wait span rest =>
    { run with
      tasks := run.tasks.set index (.due (run.turnAt index (turn.instant.plus span)) rest)
      active := none, waits := run.waits + 1, now := turn.instant }
  | .stall => { run with tasks := run.tasks.set index .ended, active := none, now := turn.instant }
  | .ask (.inl .acquire) rest =>
    if run.locked then
      { run with
        tasks := run.tasks.set index (.queued (rest ())), active := none, now := turn.instant
        queue := run.queue ++ [index] }
    else
      { run with
        tasks := run.tasks.set index (.due turn (rest ())), active := some index
        now := turn.instant, locked := true }
  | .ask (.inl .release) rest =>
    handOn { run with
      tasks := run.tasks.set index (.due turn (rest ())), active := some index
      now := turn.instant }
  | .ask (.inr question) rest =>
    let (answer, state) := handler question run.state
    { run with
      tasks := run.tasks.set index (.due turn (rest answer)), active := some index
      now := turn.instant, state }

/-- The next step of the run, unless no plan can go on. -/
def step? (handler : Handler I σ) (run : Concurrent I σ α) : Option (Concurrent I σ α) := do
  let index ← run.next
  match run.tasks[index]? with
  | some (.due turn plan) => some (run.follow handler index turn plan)
  | _ => none

/-! ## Every run ends -/

/-- A plan that is left when a question has been answered or a wait is over. -/
inductive Follows : Plan I α → Plan I α → Prop where
  | ask (question : I.Question) (next : I.Answer question → Plan I α)
      (answer : I.Answer question) : Follows (next answer) (.ask question next)
  | wait (span : Duration) (next : Plan I α) : Follows next (.wait span next)

/-- No plan goes on for ever, whatever the answers: the plans after its questions and waits
are parts of it. -/
theorem follows_wellFounded : WellFounded (Follows (I := I) (α := α)) := by
  refine ⟨fun plan => ?_⟩
  induction plan with
  | done value => exact ⟨_, fun _ follows => nomatch follows⟩
  | ask question next inductionHypothesis =>
    refine ⟨_, fun _ follows => ?_⟩
    cases follows with
    | ask answer => exact inductionHypothesis _
  | wait span next inductionHypothesis =>
    refine ⟨_, fun _ follows => ?_⟩
    cases follows with
    | wait => exact inductionHypothesis
  | stall => exact ⟨_, fun _ follows => nomatch follows⟩

/-- Less is left of a task: nothing, or a later part of its plan. -/
inductive Less : Option (Plan I α) → Option (Plan I α) → Prop where
  | ended (plan : Plan I α) : Less none (some plan)
  | later {plan rest : Plan I α} (follows : Follows rest plan) : Less (some rest) (some plan)

/-- What is left of a task cannot become less for ever. -/
theorem less_wellFounded : WellFounded (Less (I := I) (α := α)) := by
  have ended : Acc (Less (I := I) (α := α)) none := ⟨_, fun _ less => nomatch less⟩
  refine ⟨fun remains => ?_⟩
  match remains with
  | none => exact ended
  | some plan =>
    induction follows_wellFounded.apply plan with
    | intro plan _ inductionHypothesis =>
      refine ⟨_, fun _ less => ?_⟩
      cases less with
      | ended => exact ended
      | later follows => exact inductionHypothesis _ follows

/-- One entry of a list has become less, and the others are the same. -/
inductive Shrinks {β : Type} (less : β → β → Prop) : List β → List β → Prop where
  | head {before after : β} (rest : List β) (smaller : less after before) :
      Shrinks less (after :: rest) (before :: rest)
  | tail {before after : List β} (first : β) (smaller : Shrinks less after before) :
      Shrinks less (first :: after) (first :: before)

/-- Lists cannot shrink for ever if their entries cannot. A list shrinks in its first entry
or behind it, so it is as well-founded as these two together. -/
theorem shrinks_wellFounded {β : Type} {less : β → β → Prop} (wellFounded : WellFounded less) :
    WellFounded (Shrinks less) := by
  refine ⟨fun list => ?_⟩
  induction list with
  | nil => exact ⟨_, fun _ shrinks => nomatch shrinks⟩
  | cons first rest restAccessible =>
    induction wellFounded.apply first generalizing rest with
    | intro first _ firstHypothesis =>
      induction restAccessible with
      | intro rest restAccessible restHypothesis =>
        refine ⟨_, fun _ shrinks => ?_⟩
        cases shrinks with
        | head _ smaller => exact firstHypothesis _ smaller rest ⟨_, restAccessible⟩
        | tail _ smaller => exact restHypothesis _ smaller

/-- Putting a smaller entry in the place of an entry makes the list shrink. -/
theorem shrinks_set {β γ : Type} {less : γ → γ → Prop} {view : β → γ} {list : List β}
    {index : Nat} {before after : β} (found : list[index]? = some before)
    (smaller : less (view after) (view before)) :
    Shrinks less ((list.set index after).map view) (list.map view) := by
  induction list generalizing index with
  | nil => simp at found
  | cons first rest inductionHypothesis =>
    cases index with
    | zero =>
      simp only [List.getElem?_cons_zero, Option.some.injEq] at found
      subst found
      exact .head _ smaller
    | succ index =>
      rw [List.getElem?_cons_succ] at found
      exact .tail _ (inductionHypothesis found)

/-- What is left of the tasks. -/
def remains (run : Concurrent I σ α) : List (Option (Plan (Locking.sum I) α)) :=
  run.tasks.map Task.remains

/-- Handing the lock on leaves as much to do as before. -/
theorem remains_handOn (run : Concurrent I σ α) : run.handOn.remains = run.remains := by
  unfold handOn remains
  split
  · rfl
  · next first _ _ =>
    refine List.ext_getElem? fun index => ?_
    simp only [List.getElem?_map, List.getElem?_modify]
    split <;> simp [Option.map_map, Function.comp_def, Task.remains_wake]

/-- A step leaves less of one task and as much of the others. -/
theorem remains_step? {handler : Handler I σ} {run later : Concurrent I σ α}
    (step : run.step? handler = some later) : Shrinks Less later.remains run.remains := by
  obtain ⟨index, _, step⟩ := Option.bind_eq_some_iff.1 step
  split at step
  · next turn plan found =>
    cases step
    match plan with
    | .done value => exact shrinks_set found (.ended _)
    | .stall => exact shrinks_set found (.ended _)
    | .wait span rest => exact shrinks_set found (.later (.wait ..))
    | .ask (.inr question) rest =>
      exact shrinks_set found (.later (Follows.ask (I := Locking.sum I) (.inr question) rest _))
    | .ask (.inl .release) rest =>
      rw [follow, remains_handOn]
      exact shrinks_set found (.later (Follows.ask (I := Locking.sum I) (.inl .release) rest _))
    | .ask (.inl .acquire) rest =>
      rw [follow]
      split
      · exact shrinks_set found (.later (Follows.ask (I := Locking.sum I) (.inl .acquire) rest _))
      · exact shrinks_set found (.later (Follows.ask (I := Locking.sum I) (.inl .acquire) rest _))
  · cases step

/-- Steps of a run, with the later state first. -/
def Precedes (handler : Handler I σ) (later run : Concurrent I σ α) : Prop :=
  run.step? handler = some later

/-- Every run ends. -/
theorem precedes_wellFounded (handler : Handler I σ) :
    WellFounded (Precedes (α := α) handler) :=
  Subrelation.wf (fun step => remains_step? step)
    (InvImage.wf remains (shrinks_wellFounded less_wellFounded))

/-- Follows the plans until none can go on. -/
def complete (handler : Handler I σ) (run : Concurrent I σ α) : Concurrent I σ α :=
  match _step : run.step? handler with
  | none => run
  | some later => complete handler later
termination_by (precedes_wellFounded handler).wrap run
decreasing_by exact ‹_›

end Concurrent

end NodeScaler
