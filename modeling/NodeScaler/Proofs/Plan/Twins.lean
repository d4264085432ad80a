import NodeScaler.Proofs.Plan.Concluding

/-!
# Plans that run alike

Two plans run alike in two surroundings when, from states that agree, they ask the same questions, come
to related values or both to none, and leave states that agree. So what is asked and what comes of it
does not depend on the differences between the surroundings. Plans that run alike one after the other
run alike.
-/

namespace NodeScaler.Plan

variable {I : Interface} {σ τ α β γ δ ε ε' : Type} {handler : Handler I σ} {other : Handler I τ}
  {agree : σ → τ → Prop} {related : α → β → Prop}

/-- From all states that agree, the two plans ask the same, have related values or none, and leave
states that agree. -/
def Twins (handler : Handler I σ) (other : Handler I τ) (agree : σ → τ → Prop)
    (related : α → β → Prop) (plan : Plan I α) (twin : Plan I β) : Prop :=
  ∀ state later, agree state later →
    (plan.transcript handler state).exchanges.map (·.question) =
        (twin.transcript other later).exchanges.map (·.question) ∧
      Option.Rel related (plan.transcript handler state).value (twin.transcript other later).value ∧
      agree (plan.transcript handler state).state (twin.transcript other later).state

/-- Plans that are done with related values. -/
theorem twins_done {value : α} {result : β} (isRelated : related value result) :
    (done value).Twins handler other agree related (done result) :=
  fun _ _ agrees => ⟨rfl, .some isRelated, agrees⟩

/-- Plans that get stuck. -/
theorem twins_stall : (stall : Plan I α).Twins handler other agree related (stall : Plan I β) :=
  fun _ _ agrees => ⟨rfl, .none, agrees⟩

/-- Plans that ask the same, and run alike after the answers. -/
theorem twins_ask {question : I.Question} {next : I.Answer question → Plan I α}
    {more : I.Answer question → Plan I β}
    (step : ∀ state later, agree state later →
      agree (handler question state).2 (other question later).2 ∧
        (next (handler question state).1).Twins handler other agree related
          (more (other question later).1)) :
    (ask question next).Twins handler other agree related (ask question more) := by
  intro state later agrees
  obtain ⟨agreesAfter, twins⟩ := step state later agrees
  obtain ⟨asked, values, states⟩ := twins _ _ agreesAfter
  exact ⟨congrArg (question :: ·) asked, values, states⟩

/-- Plans that only wait for related values. -/
theorem Awaits.twins {plan : Plan I α} {twin : Plan I β} {value : α} {result : β}
    (awaits : plan.Awaits value) (awaitsToo : twin.Awaits result) (isRelated : related value result) :
    plan.Twins handler other agree related twin := by
  intro state later agrees
  rw [awaits.transcript, awaitsToo.transcript]
  exact ⟨rfl, .some isRelated, agrees⟩

/-- Plans that run alike, one after the other. -/
theorem Twins.bind {plan : Plan I α} {twin : Plan I β} {next : α → Plan I γ} {more : β → Plan I δ}
    {relatedLater : γ → δ → Prop} (twins : plan.Twins handler other agree related twin)
    (twinsLater : ∀ value result, related value result →
      (next value).Twins handler other agree relatedLater (more result)) :
    (plan >>= next).Twins handler other agree relatedLater (twin >>= more) := by
  intro state later agrees
  obtain ⟨asked, values, states⟩ := twins state later agrees
  generalize isValue : (plan.transcript handler state).value = value at values
  generalize isResult : (twin.transcript other later).value = result at values
  cases values with
  | none =>
    rw [transcript_bind_none next isValue, transcript_bind_none more isResult]
    exact ⟨asked, .none, states⟩
  | some isRelated =>
    rw [transcript_bind next isValue, transcript_bind more isResult]
    obtain ⟨askedLater, valuesLater, statesLater⟩ := twinsLater _ _ isRelated _ _ states
    refine ⟨?_, valuesLater, statesLater⟩
    dsimp only
    rw [List.map_append, List.map_append, asked, askedLater]

/-- Plans that run alike, with their values handed on. -/
theorem Twins.map {plan : Plan I α} {twin : Plan I β} {change : α → γ} {turn : β → δ}
    {relatedLater : γ → δ → Prop}
    (twins : plan.Twins handler other agree related twin)
    (implies : ∀ value result, related value result → relatedLater (change value) (turn result)) :
    (change <$> plan).Twins handler other agree relatedLater (turn <$> twin) :=
  twins.bind fun value result isRelated => twins_done (implies value result isRelated)

/-! ## Attempts -/

/-- Two attempts come to the same: they fail alike, or their values are related. -/
inductive Echoes (related : α → β → Prop) : Except ε α → Except ε β → Prop where
  /-- Both have values. -/
  | ok {value : α} {result : β} (isRelated : related value result) :
      Echoes related (.ok value) (.ok result)
  /-- Both have the same failure. -/
  | error (error : ε) : Echoes related (.error error) (.error error)

/-- An attempt comes to the same as itself. -/
theorem echoes_self {related : α → α → Prop} (isRelated : ∀ value, related value value)
    (result : Except ε α) : Echoes related result result := by
  cases result with
  | ok value => exact .ok (isRelated value)
  | error error => exact .error error

/-- Failures of another kind are the same if the failures are. -/
theorem Echoes.mapError {first : Except ε α} {second : Except ε β}
    (echoes : Echoes related first second) (change : ε → ε') :
    Echoes related (first.mapError change) (second.mapError change) := by
  cases echoes with
  | ok isRelated => exact .ok isRelated
  | error error => exact .error (change error)

/-- Attempts that run alike, one after the other. -/
theorem Twins.attempt {attempt : Attempt I ε α} {twin : Attempt I ε β} {next : α → Attempt I ε γ}
    {more : β → Attempt I ε δ} {relatedLater : γ → δ → Prop}
    (twins : attempt.run.Twins handler other agree (Echoes related) twin.run)
    (twinsLater : ∀ value result, related value result →
      (next value).run.Twins handler other agree (Echoes relatedLater) (more result).run) :
    (attempt >>= next).run.Twins handler other agree (Echoes relatedLater) (twin >>= more).run := by
  refine Twins.bind twins fun value result echoes => ?_
  cases echoes with
  | ok isRelated => exact twinsLater _ _ isRelated
  | error error => exact twins_done (.error error)

/-- Attempts that run alike, with their failures seen as failures of another kind. -/
theorem Twins.mapError {attempt : Attempt I ε α} {twin : Attempt I ε β}
    (twins : attempt.run.Twins handler other agree (Echoes related) twin.run) (change : ε → ε') :
    (attempt.mapError change).run.Twins handler other agree (Echoes related)
      (twin.mapError change).run :=
  twins.map fun _ _ echoes => echoes.mapError change

end NodeScaler.Plan
