import NodeScaler.Plan.Run

/-!
# What a plan asks and is told

The transcript of a plan holds the questions that it asks with the answers that it gets, its
value, and the state in which it leaves its surroundings. It says nothing about time. Value
and state are those of a run, and a plan that never stalls has a value whatever it is told.
-/

namespace NodeScaler

/-- A question and its answer. -/
structure Exchange (I : Interface) where
  /-- What is asked. -/
  question : I.Question
  /-- What is answered. -/
  answer : I.Answer question

/-- An exchange with the right part of a larger interface. -/
def Exchange.onRight {I J : Interface} (exchange : Exchange J) : Exchange (I.sum J) :=
  ⟨.inr exchange.question, exchange.answer⟩

/-- What is exchanged with the right part of a larger interface. -/
def Exchange.right? {I J : Interface} : Exchange (I.sum J) → Option (Exchange J)
  | ⟨.inl _, _⟩ => none
  | ⟨.inr question, answer⟩ => some ⟨question, answer⟩

/-- What becomes of a plan when nothing else happens. -/
structure Transcript (I : Interface) (σ α : Type) where
  /-- The questions with their answers, in order. -/
  exchanges : List (Exchange I)
  /-- The value, unless the plan stalls. -/
  value : Option α
  /-- The state in which the surroundings are left. -/
  state : σ

/-- The transcript with one more exchange in front. -/
def Transcript.cons {I : Interface} {σ α : Type} (exchange : Exchange I)
    (later : Transcript I σ α) : Transcript I σ α :=
  { later with exchanges := exchange :: later.exchanges }

/-- A transcript that ends with a value has it, with what was exchanged and what is left. -/
theorem Transcript.whole {I : Interface} {σ α : Type} {transcript : Transcript I σ α} {value : α}
    (ends : transcript.value = some value) :
    transcript = ⟨transcript.exchanges, some value, transcript.state⟩ := by
  rw [← ends]

namespace Plan

variable {I J : Interface} {σ τ α β : Type}

/-- Follows a plan from a state of its surroundings. -/
def transcript (handler : Handler I σ) : Plan I α → σ → Transcript I σ α
  | done value, state => ⟨[], some value, state⟩
  | ask question next, state =>
    let (answer, state) := handler question state
    (transcript handler (next answer) state).cons ⟨question, answer⟩
  | wait _ next, state => transcript handler next state
  | stall, state => ⟨[], none, state⟩

variable {handler : Handler I σ}

/-- A plan that is done asks nothing. -/
@[simp] theorem transcript_done (value : α) (state : σ) :
    (done value : Plan I α).transcript handler state = ⟨[], some value, state⟩ := rfl

/-- A plan that only returns a value asks nothing. -/
@[simp] theorem transcript_pure (value : α) (state : σ) :
    (pure value : Plan I α).transcript handler state = ⟨[], some value, state⟩ := rfl

/-- Value and state of the transcript are those of a run. -/
theorem transcript_eq_run (handler : Handler I σ) (plan : Plan I α) (state : σ) :
    (plan.transcript handler state).value = (plan.run handler state).value ∧
      (plan.transcript handler state).state = (plan.run handler state).state := by
  induction plan generalizing state with
  | done value => exact ⟨rfl, rfl⟩
  | ask question next inductionHypothesis => exact inductionHypothesis _ _
  | wait span next inductionHypothesis => exact inductionHypothesis _
  | stall => exact ⟨rfl, rfl⟩

/-- A plan after another: the second one starts with the value and in the state of the first,
and its exchanges follow. -/
theorem transcript_bind {plan : Plan I α} {state : σ} {value : α} (next : α → Plan I β)
    (ends : (plan.transcript handler state).value = some value) :
    (plan >>= next).transcript handler state =
      let first := plan.transcript handler state
      let second := (next value).transcript handler first.state
      { second with exchanges := first.exchanges ++ second.exchanges } := by
  induction plan generalizing state with
  | done found =>
    cases ends
    rfl
  | ask question rest inductionHypothesis =>
    have later := @inductionHypothesis (handler question state).1 (handler question state).2 ends
    simp only [ask_bind, transcript, later, Transcript.cons, List.cons_append]
  | wait span rest inductionHypothesis => exact inductionHypothesis ends
  | stall => cases ends

/-- Nothing follows a plan that stalls. -/
theorem transcript_bind_none {plan : Plan I α} {state : σ} (next : α → Plan I β)
    (stalls : (plan.transcript handler state).value = none) :
    (plan >>= next).transcript handler state =
      let first := plan.transcript handler state
      ⟨first.exchanges, none, first.state⟩ := by
  induction plan generalizing state with
  | done found => cases stalls
  | ask question rest inductionHypothesis =>
    have later := @inductionHypothesis (handler question state).1 (handler question state).2 stalls
    simp only [ask_bind, transcript, later, Transcript.cons]
  | wait span rest inductionHypothesis => exact inductionHypothesis stalls
  | stall => rfl

/-- An attempt after one that goes well. -/
theorem transcript_attempt {ε : Type} {attempt : Attempt I ε α} {state : σ} {value : α}
    (next : α → Attempt I ε β)
    (ends : (attempt.run.transcript handler state).value = some (.ok value)) :
    (attempt >>= next).run.transcript handler state =
      let first := attempt.run.transcript handler state
      let second := (next value).run.transcript handler first.state
      { second with exchanges := first.exchanges ++ second.exchanges } :=
  transcript_bind (ExceptT.bindCont next) ends

/-- An attempt after one that fails. -/
theorem transcript_attempt_error {ε : Type} {attempt : Attempt I ε α} {state : σ} {error : ε}
    (next : α → Attempt I ε β)
    (ends : (attempt.run.transcript handler state).value = some (.error error)) :
    (attempt >>= next).run.transcript handler state =
      let first := attempt.run.transcript handler state
      ⟨first.exchanges, some (.error error), first.state⟩ := by
  have whole : (attempt >>= next).run.transcript handler state = _ :=
    transcript_bind (ExceptT.bindCont next) ends
  rw [whole]
  exact congrArg (fun exchanges => (⟨exchanges, _, _⟩ : Transcript I σ (Except ε β)))
    (List.append_nil _)

/-- An attempt after one that stalls. -/
theorem transcript_attempt_none {ε : Type} {attempt : Attempt I ε α} {state : σ}
    (next : α → Attempt I ε β) (stalls : (attempt.run.transcript handler state).value = none) :
    (attempt >>= next).run.transcript handler state =
      let first := attempt.run.transcript handler state
      ⟨first.exchanges, none, first.state⟩ :=
  transcript_bind_none (ExceptT.bindCont next) stalls

/-- A value handed on. -/
theorem transcript_map {plan : Plan I α} {state : σ} {value : α} (change : α → β)
    (ends : (plan.transcript handler state).value = some value) :
    (change <$> plan).transcript handler state =
      let first := plan.transcript handler state
      ⟨first.exchanges, some (change value), first.state⟩ := by
  have whole : (change <$> plan).transcript handler state = _ :=
    transcript_bind (fun value => .done (change value)) ends
  rw [whole]
  exact congrArg (fun exchanges => (⟨exchanges, _, _⟩ : Transcript I σ β)) (List.append_nil _)

/-! ### Transcripts that are known as a whole -/

section

variable {ε : Type} {state middle last : σ} {exchanges more : List (Exchange I)}

/-- A plan after another. -/
theorem transcript_then {plan : Plan I α} {next : α → Plan I β} {value : α} {result : Option β}
    (first : plan.transcript handler state = ⟨exchanges, some value, middle⟩)
    (second : (next value).transcript handler middle = ⟨more, result, last⟩) :
    (plan >>= next).transcript handler state = ⟨exchanges ++ more, result, last⟩ := by
  rw [transcript_bind next (congrArg Transcript.value first), first]
  dsimp only
  rw [second]

/-- A value handed on by a plan. -/
theorem transcript_handed {plan : Plan I α} {value : α}
    (alone : plan.transcript handler state = ⟨exchanges, some value, last⟩) (change : α → β) :
    (change <$> plan).transcript handler state = ⟨exchanges, some (change value), last⟩ := by
  have mapped := transcript_map change (congrArg Transcript.value alone)
  rw [alone] at mapped
  exact mapped

/-- An attempt after another that goes well. -/
theorem transcript_attempt_then {attempt : Attempt I ε α} {next : α → Attempt I ε β} {value : α}
    {result : Option (Except ε β)}
    (first : attempt.run.transcript handler state = ⟨exchanges, some (.ok value), middle⟩)
    (second : (next value).run.transcript handler middle = ⟨more, result, last⟩) :
    (attempt >>= next).run.transcript handler state = ⟨exchanges ++ more, result, last⟩ :=
  transcript_then first second

/-- A failure is all that comes of an attempt and what would follow it. -/
theorem transcript_attempt_stops {attempt : Attempt I ε α} {next : α → Attempt I ε β} {error : ε}
    (fails : attempt.run.transcript handler state = ⟨exchanges, some (.error error), last⟩) :
    (attempt >>= next).run.transcript handler state = ⟨exchanges, some (.error error), last⟩ := by
  rw [transcript_attempt_error next (congrArg Transcript.value fails), fails]

/-- What follows an attempt and asks nothing more. -/
theorem transcript_attempt_value {attempt : Attempt I ε α} {next : α → Attempt I ε β} {value : α}
    {result : Except ε β}
    (first : attempt.run.transcript handler state = ⟨exchanges, some (.ok value), last⟩)
    (second : (next value).run = .done result) :
    (attempt >>= next).run.transcript handler state = ⟨exchanges, some result, last⟩ := by
  have whole : (attempt >>= next).run.transcript handler state = ⟨exchanges ++ [], some result, last⟩ :=
    transcript_attempt_then first (by rw [second]; rfl)
  rw [whole, List.append_nil]

/-- An attempt with its failures seen as failures of another kind. -/
theorem transcript_mapError {ε' : Type} {attempt : Attempt I ε α} {result : Except ε α}
    (alone : attempt.run.transcript handler state = ⟨exchanges, some result, last⟩)
    (change : ε → ε') :
    (attempt.mapError change).run.transcript handler state =
      ⟨exchanges, some (result.mapError change), last⟩ :=
  transcript_handed alone (Except.mapError change)

end

/-- What a plan asks as the right part of a larger interface, it asks of the right part. -/
theorem transcript_right (left : Handler I σ) (right : Handler J τ) (plan : Plan J α) (first : σ)
    (second : τ) :
    (plan.right : Plan (I.sum J) α).transcript (left.sum right) (first, second) =
      let alone := plan.transcript right second
      ⟨alone.exchanges.map .onRight, alone.value, (first, alone.state)⟩ := by
  induction plan generalizing second with
  | done value => rfl
  | ask question next inductionHypothesis =>
    have later := inductionHypothesis (right question second).1 (right question second).2
    exact congrArg (Transcript.cons (Exchange.onRight ⟨question, _⟩)) later
  | wait span next inductionHypothesis => exact inductionHypothesis second
  | stall => rfl

/-- An attempt as the right part of a larger interface. -/
theorem transcript_right_attempt {ε : Type} {right : Handler J τ} {attempt : Attempt J ε α}
    {exchanges : List (Exchange J)} {result : Option (Except ε α)} {second last : τ}
    (alone : attempt.run.transcript right second = ⟨exchanges, result, last⟩) (left : Handler I σ)
    (first : σ) :
    (attempt.right : Attempt (I.sum J) ε α).run.transcript (left.sum right) (first, second) =
      ⟨exchanges.map .onRight, result, (first, last)⟩ := by
  have whole := transcript_right left right attempt.run first second
  rw [alone] at whole
  exact whole

/-! ## Plans that never stall -/

/-- The plan has a value whatever it is told. -/
def Proceeds : Plan I α → Prop
  | done _ => True
  | ask _ next => ∀ answer, (next answer).Proceeds
  | wait _ next => next.Proceeds
  | stall => False

/-- A plan that proceeds has a value in every transcript. -/
theorem Proceeds.value {plan : Plan I α} (proceeds : plan.Proceeds) (handler : Handler I σ)
    (state : σ) :
    ∃ value, (plan.transcript handler state).value = some value := by
  induction plan generalizing state with
  | done value => exact ⟨value, rfl⟩
  | ask question next inductionHypothesis =>
    exact inductionHypothesis _ (proceeds _) _
  | wait span next inductionHypothesis => exact inductionHypothesis proceeds _
  | stall => exact proceeds.elim

/-- Plans that proceed, one after the other, proceed. -/
theorem Proceeds.bind {plan : Plan I α} {next : α → Plan I β} (proceeds : plan.Proceeds)
    (later : ∀ value, (next value).Proceeds) : (plan >>= next).Proceeds := by
  induction plan with
  | done value => exact later value
  | ask question rest inductionHypothesis =>
    exact fun answer => inductionHypothesis answer (proceeds answer)
  | wait span rest inductionHypothesis => exact inductionHypothesis proceeds
  | stall => exact proceeds.elim

/-- A plan proceeds also as a part of a larger interface. -/
theorem Proceeds.right {plan : Plan J α} (proceeds : plan.Proceeds) :
    (plan.right : Plan (I.sum J) α).Proceeds := by
  induction plan with
  | done value => trivial
  | ask question rest inductionHypothesis =>
    exact fun answer => inductionHypothesis answer (proceeds answer)
  | wait span rest inductionHypothesis => exact inductionHypothesis proceeds
  | stall => exact proceeds.elim

/-- A pause is over some time. -/
theorem proceeds_pause (span : Duration) : (pause span : Plan I Unit).Proceeds := by
  unfold pause
  split <;> trivial

end Plan

end NodeScaler
