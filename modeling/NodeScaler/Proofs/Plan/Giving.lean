import NodeScaler.Proofs.Plan.Harmless
import NodeScaler.Proofs.Plan.Settling
import NodeScaler.Proofs.Plan.Transcript
import NodeScaler.Provider.NodeGroup

/-!
# What a plan gives

Run from a state, a plan gives a value and leaves a state. Both are determined by where it starts,
so what plans give one after the other is found out piece by piece. How long it takes and what is
asked on the way does not matter here.
-/

namespace NodeScaler.Plan

variable {I J : Interface} {σ τ α β : Type} {handler : Handler I σ}

/-- Run from the first state, the plan has the value and leaves the last state. -/
def Gives (handler : Handler I σ) (plan : Plan I α) (state : σ) (value : α) (last : σ) : Prop :=
  (plan.run handler state).value = some value ∧ (plan.run handler state).state = last

variable {plan : Plan I α} {state middle last : σ} {value : α}

/-- A plan that is done gives its value. -/
theorem gives_done (value : α) (state : σ) : (done value : Plan I α).Gives handler state value state :=
  ⟨rfl, rfl⟩

/-- A question is answered, and the plan goes on. -/
theorem gives_ask {question : I.Question} {next : I.Answer question → Plan I α}
    (later : (next (handler question state).1).Gives handler (handler question state).2 value last) :
    (ask question next).Gives handler state value last := later

/-- From one state a plan gives one value and leaves one state. -/
theorem Gives.unique {other : α} {final : σ} (gives : plan.Gives handler state value last)
    (givesToo : plan.Gives handler state other final) : value = other ∧ last = final :=
  ⟨Option.some.inj (gives.1.symm.trans givesToo.1), gives.2.symm.trans givesToo.2⟩

/-- A plan after another starts with what that one gives. -/
theorem Gives.bind {next : α → Plan I β} {result : β} (gives : plan.Gives handler state value middle)
    (later : (next value).Gives handler middle result last) :
    (plan >>= next).Gives handler state result last := by
  have whole := run_bind next gives.1
  dsimp only at whole
  rw [gives.2] at whole
  rw [Gives, whole]
  exact later

/-- A value handed on. -/
theorem Gives.map (gives : plan.Gives handler state value last) (change : α → β) :
    (change <$> plan).Gives handler state (change value) last :=
  gives.bind (gives_done _ _)

/-- An attempt after one that goes well. -/
theorem Gives.attempt {ε : Type} {attempt : Attempt I ε α} {next : α → Attempt I ε β}
    {result : Except ε β} (gives : attempt.run.Gives handler state (.ok value) middle)
    (later : (next value).run.Gives handler middle result last) :
    (attempt >>= next).run.Gives handler state result last :=
  Gives.bind gives later

/-- An attempt after one that fails. -/
theorem Gives.attemptError {ε : Type} {attempt : Attempt I ε α} {next : α → Attempt I ε β} {error : ε}
    (gives : attempt.run.Gives handler state (.error error) last) :
    (attempt >>= next).run.Gives handler state (.error error) last :=
  Gives.bind gives (gives_done _ _)

/-- A plan gives the same as the right part of a larger interface. -/
theorem Gives.right {left : Handler J τ} (gives : plan.Gives handler state value last) (beside : τ) :
    (plan.right : Plan (J.sum I) α).Gives (left.sum handler) (beside, state) value (beside, last) := by
  obtain ⟨sameValue, sameState⟩ := transcript_eq_run handler plan state
  obtain ⟨ofRun, leftByRun⟩ :=
    transcript_eq_run (left.sum handler) (plan.right : Plan (J.sum I) α) (beside, state)
  rw [transcript_right left handler plan beside state] at ofRun leftByRun
  exact ⟨ofRun.symm.trans (sameValue.trans gives.1),
    leftByRun.symm.trans (congrArg (beside, ·) (sameState.trans gives.2))⟩

/-- What a plan gives is found in its transcript. -/
theorem Gives.transcript (gives : plan.Gives handler state value last) :
    (plan.transcript handler state).value = some value ∧
      (plan.transcript handler state).state = last := by
  obtain ⟨sameValue, sameState⟩ := transcript_eq_run handler plan state
  exact ⟨sameValue.trans gives.1, sameState.trans gives.2⟩

/-- There are exchanges through which a plan gives what it gives. -/
theorem Gives.exists_transcript (gives : plan.Gives handler state value last) :
    ∃ exchanges, plan.transcript handler state = ⟨exchanges, some value, last⟩ := by
  obtain ⟨isValue, rfl⟩ := gives.transcript
  exact ⟨_, Transcript.whole isValue⟩

/-- A transcript says what a plan gives. -/
theorem gives_of_transcript {exchanges : List (Exchange I)}
    (whole : plan.transcript handler state = ⟨exchanges, some value, last⟩) :
    plan.Gives handler state value last := by
  obtain ⟨sameValue, sameState⟩ := transcript_eq_run handler plan state
  rw [whole] at sameValue sameState
  exact ⟨sameValue.symm, sameState.symm⟩

/-- What a plan yields is what it gives. -/
theorem Yields.exists_gives {ends : α → σ → Prop} {limit : Nat}
    (yields : plan.Yields handler ends limit state) :
    ∃ value last, plan.Gives handler state value last ∧ ends value last := by
  obtain ⟨value, isValue, isEnd, -⟩ := yields
  exact ⟨value, _, ⟨isValue, rfl⟩, isEnd⟩

/-- In good surroundings a plan that settles gives a value of its kind, and leaves them good. -/
theorem Settles.exists_gives {good : σ → Prop} {kind : α → Prop}
    (settles : plan.Settles handler good kind) (isGood : good state) :
    ∃ value last, plan.Gives handler state value last ∧ kind value ∧ good last := by
  obtain ⟨value, isValue, isKind, stays⟩ := settles.run isGood
  exact ⟨value, _, ⟨isValue, rfl⟩, isKind, stays⟩

/-- A plan that settles on one value, and keeps one state, gives it. -/
theorem Settles.gives (settles : plan.Settles handler (· = state) (· = value)) :
    plan.Gives handler state value state := by
  obtain ⟨found, ends, isValue, stays⟩ := settles.run rfl
  exact ⟨isValue ▸ ends, stays⟩

/-- Under a lock that nobody else wants, a plan gives what it gives without the lock. -/
theorem Gives.locked (gives : plan.Gives handler state value last) :
    (NodeGroup.locked plan).Gives (Locking.uncontended.sum handler) ((), state) value ((), last) := by
  have work : (plan.right >>= fun value =>
      (ask (.inl LockRequest.release) fun _ => done value : Plan (Locking.sum I) α)).Gives
        (Locking.uncontended.sum handler) ((), state) value ((), last) :=
    Gives.bind (gives.right ()) (gives_ask (gives_done _ _))
  exact gives_ask work

/-- After a pause that is over in time, a question is asked and its answer is the result. -/
theorem gives_within_pause {ε : Type} (handler : Handler I σ) {span limit : Duration}
    (question : I.Question) (asResult : I.Answer question → Except ε α) (state : σ)
    (inTime : span.waited.nanoseconds ≤ limit.nanoseconds) :
    ((do Attempt.pause span; Attempt.question question asResult : Attempt I ε α).run.within
      limit).Gives handler state (some (asResult (handler question state).1))
        (handler question state).2 := by
  unfold Attempt.pause pause
  by_cases atOnce : span.nanoseconds = 0
  · rw [if_pos atOnce]
    exact ⟨rfl, rfl⟩
  · rw [if_neg atOnce]
    change Gives handler (within limit (wait span.waited
      (ask question fun answer => done (asResult answer)))) _ _ _
    rw [within, if_pos inTime]
    exact ⟨rfl, rfl⟩

/-- A pause that is too long is cut off, and nothing is asked after it. -/
theorem gives_within_pause_late {ε : Type} (handler : Handler I σ) {span limit : Duration}
    (question : I.Question) (asResult : I.Answer question → Except ε α) (state : σ)
    (tooLate : limit.nanoseconds < span.waited.nanoseconds) :
    ((do Attempt.pause span; Attempt.question question asResult : Attempt I ε α).run.within
      limit).Gives handler state none state := by
  unfold Attempt.pause pause
  by_cases atOnce : span.nanoseconds = 0
  · simp [Duration.waited, atOnce] at tooLate
  · rw [if_neg atOnce]
    change Gives handler (within limit (wait span.waited
      (ask question fun answer => done (asResult answer)))) _ _ _
    rw [within, if_neg (Nat.not_le.2 tooLate)]
    unfold pause
    split <;> exact ⟨rfl, rfl⟩

/-- Whatever a harmless plan is told, it has a value of its kind, and what no harmless question
changes stays. -/
theorem Harmless.gives {harmless : I.Question → Prop} {kind : α → Prop} {good : σ → Prop}
    (safe : plan.Harmless harmless kind) (keeps : ∀ question state, harmless question → good state →
      good (handler question state).2) (isGood : good state) :
    ∃ value last, plan.Gives handler state value last ∧ kind value ∧ good last := by
  induction plan generalizing state with
  | done value => exact ⟨value, state, gives_done value state, safe, isGood⟩
  | ask question next inductionHypothesis =>
    exact inductionHypothesis _ (safe.2 _) (keeps question state safe.1 isGood)
  | wait span next inductionHypothesis => exact inductionHypothesis safe isGood
  | stall => exact safe.elim

/-- A value is handed on in the same way in a larger interface. -/
theorem right_map (change : α → β) (plan : Plan I α) :
    change <$> (plan.right : Plan (J.sum I) α) = (change <$> plan).right := by
  induction plan with
  | done value => rfl
  | ask question next inductionHypothesis =>
    exact congrArg (ask _) (funext fun answer => inductionHypothesis answer)
  | wait span next inductionHypothesis => exact congrArg (wait span) inductionHypothesis
  | stall => rfl

/-- Cutting off a plan does not depend on which part of a larger interface it asks. -/
theorem right_within (plan : Plan I α) (limit : Duration) :
    (plan.right : Plan (J.sum I) α).within limit = (plan.within limit).right := by
  induction plan generalizing limit with
  | done value => rfl
  | ask question next inductionHypothesis =>
    exact congrArg (ask _) (funext fun answer => inductionHypothesis answer limit)
  | wait span next inductionHypothesis =>
    have pauses : (bind (pause limit) fun _ => done none : Plan (J.sum I) (Option α)) =
        (bind (pause limit) fun _ => done none : Plan I (Option α)).right := by
      unfold pause
      split <;> rfl
    simp only [right, within]
    split
    · exact congrArg (wait span) (inductionHypothesis _)
    · exact pauses
  | stall =>
    have pauses : (bind (pause limit) fun _ => done none : Plan (J.sum I) (Option α)) =
        (bind (pause limit) fun _ => done none : Plan I (Option α)).right := by
      unfold pause
      split <;> rfl
    exact pauses

end NodeScaler.Plan
