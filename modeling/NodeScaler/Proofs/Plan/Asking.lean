import NodeScaler.Proofs.Plan.Harmless

/-!
# What a plan asks

Whatever it is told, a plan may ask only questions of a certain kind. Whether it may also wait for
something that does not happen is a question of its own: a deadline takes that away, and then the
plan is harmless.
-/

namespace NodeScaler.Plan

variable {I : Interface} {α β ε ε' : Type} {allowed : I.Question → Prop} {stalls : Prop}

/-- The plan asks only what is allowed, whatever it is told. It may stall only under a condition. -/
inductive Asks (allowed : I.Question → Prop) (stalls : Prop) : Plan I α → Prop where
  /-- It asks nothing. -/
  | done (value : α) : Asks allowed stalls (done value)
  /-- It asks something that is allowed, and goes on so. -/
  | ask {question : I.Question} {next : I.Answer question → Plan I α} (isAllowed : allowed question)
      (later : ∀ answer, Asks allowed stalls (next answer)) : Asks allowed stalls (ask question next)
  /-- It waits, and goes on so. -/
  | wait {span : Duration} {next : Plan I α} (later : Asks allowed stalls next) :
      Asks allowed stalls (wait span next)
  /-- It stalls. -/
  | stall (holds : stalls) : Asks allowed stalls stall

/-- A pause asks nothing. -/
theorem asks_pause (span : Duration) : (pause span : Plan I Unit).Asks allowed stalls := by
  unfold pause
  split
  · exact .done ()
  · exact .wait (.done ())

/-- What may be asked, and whether to stall, may be less restricted. -/
theorem Asks.widen {wider : I.Question → Prop} {hangs : Prop} {plan : Plan I α}
    (asks : plan.Asks allowed stalls) (implies : ∀ question, allowed question → wider question)
    (mayStall : stalls → hangs) : plan.Asks wider hangs := by
  induction asks with
  | done value => exact .done value
  | ask isAllowed later inductionHypothesis => exact .ask (implies _ isAllowed) inductionHypothesis
  | wait later inductionHypothesis => exact .wait inductionHypothesis
  | stall holds => exact .stall (mayStall holds)

/-- Plans that ask only what is allowed, one after the other, ask nothing else. -/
theorem Asks.bind {plan : Plan I α} {next : α → Plan I β} (asks : plan.Asks allowed stalls)
    (nextAsks : ∀ value, (next value).Asks allowed stalls) : (plan >>= next).Asks allowed stalls := by
  induction asks with
  | done value => exact nextAsks value
  | ask isAllowed later inductionHypothesis => exact .ask isAllowed inductionHypothesis
  | wait later inductionHypothesis => exact .wait inductionHypothesis
  | stall holds => exact .stall holds

/-- Attempts that ask only what is allowed, one after the other, ask nothing else. -/
theorem Asks.attempt {attempt : Attempt I ε α} {next : α → Attempt I ε β}
    (asks : attempt.run.Asks allowed stalls)
    (nextAsks : ∀ value, (next value).run.Asks allowed stalls) :
    (attempt >>= next).run.Asks allowed stalls := by
  refine Asks.bind asks fun result => ?_
  cases result with
  | ok value => exact nextAsks value
  | error error => exact .done _

/-- Seeing failures as failures of another kind asks nothing. -/
theorem Asks.mapError {attempt : Attempt I ε α} (asks : attempt.run.Asks allowed stalls)
    (change : ε → ε') : (attempt.mapError change).run.Asks allowed stalls :=
  asks.bind fun _ => .done _

/-- Under a deadline a plan does not stall. -/
theorem Asks.within {plan : Plan I α} (asks : plan.Asks allowed stalls) (limit : Duration) :
    (plan.within limit).Asks allowed False := by
  have cut (limit : Duration) :
      ((pause limit).bind fun _ => .done none : Plan I (Option α)).Asks allowed False :=
    (asks_pause limit).bind fun _ => .done none
  induction asks generalizing limit with
  | done value => exact .done _
  | ask isAllowed later inductionHypothesis =>
    exact .ask isAllowed fun answer => inductionHypothesis answer limit
  | wait later inductionHypothesis =>
    rw [Plan.within]
    split
    · exact .wait (inductionHypothesis _)
    · exact cut limit
  | stall holds => exact cut limit

/-- An attempt within a span of time does not stall. -/
theorem Asks.attemptWithin {attempt : Attempt I ε α} (asks : attempt.run.Asks allowed stalls)
    (limit : Duration) (late : ε) : (attempt.within limit late).run.Asks allowed False :=
  (asks.within limit.alarm).bind fun _ => .done _

/-- A plan that does not stall is harmless. -/
theorem Asks.harmless {plan : Plan I α} (asks : plan.Asks allowed False) :
    plan.Harmless allowed fun _ => True := by
  induction asks with
  | done value => trivial
  | ask isAllowed later inductionHypothesis => exact ⟨isAllowed, inductionHypothesis⟩
  | wait later inductionHypothesis => exact inductionHypothesis
  | stall holds => exact holds

/-- An attempt that does not stall is harmless. -/
theorem Asks.harmlessAttempt {attempt : Attempt I ε α} (asks : attempt.run.Asks allowed False) :
    attempt.run.Harmless allowed (OnlyFails fun _ => True) := by
  refine asks.harmless.mono fun result _ => ?_
  cases result <;> trivial

/-- A plan that does not stall has a value whatever it is told, and has asked only what is allowed. -/
theorem Asks.ends {σ : Type} {plan : Plan I α} (asks : plan.Asks allowed False)
    (handler : Handler I σ) (state : σ) :
    ∃ exchanges value last, plan.transcript handler state = ⟨exchanges, some value, last⟩ ∧
      ∀ exchange ∈ exchanges, allowed exchange.question := by
  obtain ⟨allowed, value, isValue, -⟩ := asks.harmless.transcript handler state
  exact ⟨_, value, _, congrArg (fun value => (⟨_, value, _⟩ : Transcript I σ α)) isValue, allowed⟩

/-- Plans one after the other stay so as the right part of a larger interface. -/
theorem right_bind {J : Interface} (plan : Plan I α) (next : α → Plan I β) :
    ((plan >>= next).right : Plan (J.sum I) β) = plan.right >>= fun value => (next value).right := by
  induction plan with
  | done value => rfl
  | ask question rest inductionHypothesis =>
    exact congrArg (ask (I := J.sum I) (.inr question)) (funext inductionHypothesis)
  | wait span rest inductionHypothesis => exact congrArg (wait span) inductionHypothesis
  | stall => rfl

/-- As the right part of a larger interface a plan asks nothing of the left part. -/
theorem Asks.right {J : Interface} {plan : Plan I α} (asks : plan.Asks allowed stalls) :
    (plan.right : Plan (J.sum I) α).Asks (I := J.sum I) (Sum.elim (fun _ => True) allowed) stalls := by
  induction asks with
  | done value => exact .done value
  | ask isAllowed later inductionHypothesis => exact .ask (I := J.sum I) isAllowed inductionHypothesis
  | wait later inductionHypothesis => exact .wait inductionHypothesis
  | stall holds => exact .stall holds

/-- If what is allowed is answered alike from states that are alike, and leaves such states, then a
plan comes to the same value from both, and leaves such states. -/
theorem Asks.alike {σ τ : Type} {handler : Handler I σ} {other : Handler I τ}
    {alike : σ → τ → Prop} {plan : Plan I α} (asks : plan.Asks allowed stalls)
    (step : ∀ question, allowed question → ∀ state twin, alike state twin →
      (handler question state).1 = (other question twin).1 ∧
        alike (handler question state).2 (other question twin).2)
    {state : σ} {twin : τ} (start : alike state twin) :
    (plan.transcript handler state).value = (plan.transcript other twin).value ∧
      alike (plan.transcript handler state).state (plan.transcript other twin).state := by
  induction asks generalizing state twin with
  | done value => exact ⟨rfl, start⟩
  | @ask question next isAllowed later inductionHypothesis =>
    obtain ⟨sameAnswer, goesOn⟩ := step question isAllowed state twin start
    have rest := inductionHypothesis (handler question state).1 goesOn
    simp only [transcript, Transcript.cons, ← sameAnswer]
    exact rest
  | wait later inductionHypothesis => exact inductionHypothesis start
  | stall holds => exact ⟨rfl, start⟩

/-- A harmless plan asks what does no harm. -/
theorem Harmless.asks {plan : Plan I α} {kind : α → Prop} (safe : plan.Harmless allowed kind) :
    plan.Asks allowed False := by
  induction plan with
  | done value => exact .done value
  | ask question next inductionHypothesis =>
    exact .ask safe.1 fun answer => inductionHypothesis answer (safe.2 answer)
  | wait span next inductionHypothesis => exact .wait (inductionHypothesis safe)
  | stall => exact safe.elim

/-! ## One question -/

/-- The questions that a plan asks, from a state of its surroundings. -/
def questions {σ : Type} (plan : Plan I α) (handler : Handler I σ) (state : σ) : List I.Question :=
  (plan.transcript handler state).exchanges.map (·.question)

/-- A plan that may ask nothing asks no questions. -/
theorem Asks.questions_eq_nil {σ : Type} {plan : Plan I α} (asks : plan.Asks (fun _ => False) stalls)
    (handler : Handler I σ) (state : σ) : plan.questions handler state = [] := by
  induction asks with
  | done value => rfl
  | ask isAllowed later inductionHypothesis => exact isAllowed.elim
  | wait later inductionHypothesis => exact inductionHypothesis
  | stall holds => rfl

/-- The plan asks at most one question, and whatever the answer is, nothing more. -/
inductive AsksJust : Option I.Question → Plan I α → Prop where
  /-- It asks nothing. -/
  | none {plan : Plan I α} (quiet : plan.Asks (fun _ => False) False) : AsksJust none plan
  /-- It asks a question, and nothing after it. -/
  | some {question : I.Question} {next : I.Answer question → Plan I α}
      (quiet : ∀ answer, (next answer).Asks (fun _ => False) False) :
      AsksJust (some question) (ask question next)

/-- Its questions are the one that it asks. -/
theorem AsksJust.questions_eq {σ : Type} {question? : Option I.Question} {plan : Plan I α}
    (asksJust : AsksJust question? plan) (handler : Handler I σ) (state : σ) :
    plan.questions handler state = question?.toList := by
  cases asksJust with
  | none quiet => exact quiet.questions_eq_nil handler state
  | some quiet => exact congrArg (_ :: ·) ((quiet _).questions_eq_nil handler _)

/-- What follows may ask nothing. -/
theorem AsksJust.bind {question? : Option I.Question} {plan : Plan I α} {next : α → Plan I β}
    (asksJust : AsksJust question? plan)
    (quiet : ∀ value, (next value).Asks (fun _ => False) False) : AsksJust question? (plan >>= next) := by
  cases asksJust with
  | none isQuiet => exact .none (isQuiet.bind quiet)
  | some isQuiet => exact .some fun answer => (isQuiet answer).bind quiet

/-- What an attempt goes on with may ask nothing. -/
theorem AsksJust.attempt {question? : Option I.Question} {attempt : Attempt I ε α}
    {next : α → Attempt I ε β} (asksJust : AsksJust question? attempt.run)
    (quiet : ∀ value, (next value).run.Asks (fun _ => False) False) :
    AsksJust question? (attempt >>= next).run := by
  refine asksJust.bind fun result => ?_
  cases result with
  | ok value => exact quiet value
  | error error => exact .done _

end NodeScaler.Plan
