import NodeScaler.Proofs.Plan.Harmless
import NodeScaler.Proofs.Plan.Interleaving
import NodeScaler.Provider.NodeGroup

/-!
# Errands under a lock

An errand approaches, does its work while it has the lock, and reports afterwards. Before and
after its work it is quiet: it asks only what does no harm, and nothing about the lock. Beside
errands there may be plans that are quiet from beginning to end.

At any instant of an interleaving every errand has its place: it approaches, it is queued, it
is at work, it is leaving, or it is over. The places fit together: at most one errand is at
work, the others that have asked are queued in the order in which they asked, and those served
were served in this order.
-/

namespace NodeScaler

namespace Plan

variable {I : Interface} {α β : Type}

/-- The plan asks only what does no harm and nothing about the lock, and ends with a value of
a certain kind. -/
def Quiet (harmless : I.Question → Prop) (kind : α → Prop) : Plan (Locking.sum I) α → Prop
  | done value => kind value
  | ask (.inl _) _ => False
  | ask (.inr question) next => harmless question ∧ ∀ answer, (next answer).Quiet harmless kind
  | wait _ next => next.Quiet harmless kind
  | stall => False

variable {harmless : I.Question → Prop} {kind : α → Prop} {later : β → Prop}

/-- Quiet plans one after the other are quiet. -/
theorem Quiet.bind {plan : Plan (Locking.sum I) α} {next : α → Plan (Locking.sum I) β}
    (quiet : plan.Quiet harmless kind)
    (nextQuiet : ∀ value, kind value → (next value).Quiet harmless later) :
    (plan >>= next).Quiet harmless later := by
  induction plan with
  | done value => exact nextQuiet value quiet
  | ask question rest inductionHypothesis =>
    cases question with
    | inl request => exact quiet.elim
    | inr question =>
      exact ⟨quiet.1, fun answer => inductionHypothesis answer (quiet.2 answer)⟩
  | wait span rest inductionHypothesis => exact inductionHypothesis quiet
  | stall => exact quiet.elim

/-- Beside a lock that it does not ask for, a harmless plan is quiet. -/
theorem Harmless.quiet {plan : Plan I α} (safe : plan.Harmless harmless kind) :
    (plan.right : Plan (Locking.sum I) α).Quiet harmless kind := by
  induction plan with
  | done value => exact safe
  | ask question rest inductionHypothesis =>
    exact ⟨safe.1, fun answer => inductionHypothesis answer (safe.2 answer)⟩
  | wait span rest inductionHypothesis => exact inductionHypothesis safe
  | stall => exact safe.elim

/-- A pause is quiet. -/
theorem quiet_pause (span : Duration) :
    (pause span : Plan (Locking.sum I) Unit).Quiet harmless fun _ => True := by
  unfold pause
  split <;> trivial

/-- The plan does not wait. -/
def Prompt : Plan I α → Prop
  | done _ => True
  | ask _ next => ∀ answer, (next answer).Prompt
  | wait _ _ => False
  | stall => False

end Plan

/-- Under a lock that nobody else wants, a plan that has a value does what it does without the lock. -/
theorem NodeGroup.transcript_locked_some {I : Interface} {σ α : Type} {handler : Handler I σ}
    {plan : Plan I α} {state : σ} {value : α}
    (hasValue : (plan.transcript handler state).value = some value) :
    (NodeGroup.locked plan).transcript (Locking.uncontended.sum handler) ((), state) =
      let alone := plan.transcript handler state
      ⟨⟨.inl .acquire, ()⟩ :: (alone.exchanges.map .onRight ++ [⟨.inl .release, ()⟩]), alone.value,
        ((), alone.state)⟩ := by
  have right := Plan.transcript_right Locking.uncontended handler plan () state
  have ends := (congrArg Transcript.value right).trans hasValue
  have work := Plan.transcript_bind (fun value =>
    .ask (I := Locking.sum I) (.inl LockRequest.release) fun _ => .done value) ends
  refine (congrArg (Transcript.cons _) work).trans ?_
  rw [right]
  simp only [hasValue]
  rfl

/-- Under a lock that nobody else wants, a plan does what it does without the lock. -/
theorem NodeGroup.transcript_locked {I : Interface} {σ α : Type} (handler : Handler I σ)
    {plan : Plan I α} (proceeds : plan.Proceeds) (state : σ) :
    (NodeGroup.locked plan).transcript (Locking.uncontended.sum handler) ((), state) =
      let alone := plan.transcript handler state
      ⟨⟨.inl .acquire, ()⟩ :: (alone.exchanges.map .onRight ++ [⟨.inl .release, ()⟩]), alone.value,
        ((), alone.state)⟩ := by
  obtain ⟨value, hasValue⟩ := proceeds.value handler state
  exact transcript_locked_some hasValue

/-! ## Errands and other jobs -/

/-- Work that needs the lock, with what comes before and after. -/
structure Errand (I : Interface) (β α : Type) where
  /-- What comes before the lock is asked for. -/
  approach : Plan (Locking.sum I) Unit
  /-- The work. -/
  work : Plan I β
  /-- What comes after the lock is given back. -/
  report : β → Plan (Locking.sum I) α

namespace Errand

variable {I : Interface} {α β : Type}

/-- What is left of the errand while it has the lock, by what is left of its work. -/
def holding (errand : Errand I β α) (rest : Plan I β) : Plan (Locking.sum I) α :=
  rest.right >>= fun value => .ask (.inl .release) fun _ => errand.report value

/-- When the work is done, the lock is given back. -/
@[simp] theorem holding_done (errand : Errand I β α) (value : β) :
    errand.holding (.done value) = .ask (.inl .release) fun _ => errand.report value := rfl

/-- A question of the work is a question of the errand. -/
@[simp] theorem holding_ask (errand : Errand I β α) (question : I.Question)
    (next : I.Answer question → Plan I β) :
    errand.holding (.ask question next) =
      .ask (.inr question) fun answer => errand.holding (next answer) := rfl

/-- A wait of the work is a wait of the errand. -/
@[simp] theorem holding_wait (errand : Errand I β α) (span : Duration) (next : Plan I β) :
    errand.holding (.wait span next) = .wait span (errand.holding next) := rfl

/-- What is left of the errand when it asks for the lock. -/
def entry (errand : Errand I β α) : Plan (Locking.sum I) α :=
  .ask (.inl .acquire) fun _ => errand.holding errand.work

/-- The whole errand. -/
def plan (errand : Errand I β α) : Plan (Locking.sum I) α :=
  errand.approach >>= fun _ => errand.entry

/-- An errand is what it does under the lock, between what comes before and after. -/
theorem plan_eq (errand : Errand I β α) :
    errand.plan = errand.approach >>= fun _ => NodeGroup.locked errand.work >>= errand.report := by
  unfold plan entry holding NodeGroup.locked
  refine congrArg (errand.approach >>= ·) (funext fun _ => ?_)
  simp only [bind_assoc]
  rfl

end Errand

/-- A plan among others. -/
inductive Job (I : Interface) (β α : Type) where
  /-- One that leaves the lock alone. -/
  | aside (plan : Plan (Locking.sum I) α)
  /-- An errand. -/
  | errand (errand : Errand I β α)

/-- The plan of a job. -/
def Job.plan {I : Interface} {α β : Type} : Job I β α → Plan (Locking.sum I) α
  | .aside plan => plan
  | .errand work => work.plan

end NodeScaler
