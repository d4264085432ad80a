import NodeScaler.Proofs.Plan.Hearing

/-!
# What a plan concludes

What a plan has heard determines its value, as long as the plan is not dropped: it concludes the value
from the exchanges. What plans conclude one after the other is put together from what each of them
concludes, and in any surroundings a plan has the value that it concludes from its own transcript.
-/

namespace NodeScaler.Plan

variable {I : Interface} {σ α β ε : Type} {plan : Plan I α} {value : α}
  {exchanges before after : List (Exchange I)}

/-- Once the plan has heard just these exchanges, it has this value. -/
def Concludes (plan : Plan I α) (exchanges : List (Exchange I)) (value : α) : Prop :=
  ∃ time, plan.Hears exchanges time (some value)

/-! ## One step -/

/-- A plan that is done concludes its value from nothing. -/
theorem concludes_done {found : α} :
    (done found : Plan I α).Concludes exchanges value ↔ exchanges = [] ∧ value = found := by
  constructor
  · rintro ⟨time, hears⟩
    obtain ⟨isNothing, -, isValue⟩ := hears.of_done_some
    exact ⟨isNothing, isValue⟩
  · rintro ⟨rfl, rfl⟩
    exact ⟨_, .done _⟩

/-- A plan that asks concludes what it concludes after the answer. -/
theorem concludes_ask {question : I.Question} {next : I.Answer question → Plan I α} :
    (ask question next).Concludes exchanges value ↔ ∃ answer later,
      exchanges = ⟨question, answer⟩ :: later ∧ (next answer).Concludes later value := by
  constructor
  · rintro ⟨time, hears⟩
    cases hears with
    | ask later => exact ⟨_, _, rfl, time, later⟩
  · rintro ⟨answer, later, rfl, time, hears⟩
    exact ⟨time, .ask hears⟩

/-- Waiting changes nothing about what a plan concludes. -/
theorem concludes_wait {span : Duration} {next : Plan I α} :
    (wait span next).Concludes exchanges value ↔ next.Concludes exchanges value := by
  constructor
  · rintro ⟨time, hears⟩
    cases hears with
    | wait later => exact ⟨_, later⟩
  · rintro ⟨time, hears⟩
    exact ⟨_, .wait hears⟩

/-! ## Plans put together -/

/-- What plans hear one after the other. -/
theorem Hears.bind {next : α → Plan I β} {between late : Duration} {result : Option β}
    (hears : plan.Hears before between (some value)) (hearsLater : (next value).Hears after late result) :
    (plan >>= next).Hears (before ++ after) (between.plus late) result := by
  generalize isValue : some value = found at hears
  induction hears with
  | stop plan => cases isValue
  | done found =>
    cases isValue
    rw [List.nil_append, show Duration.zero.plus late = late by simp [Duration.plus, Duration.zero]]
    exact hearsLater
  | ask later inductionHypothesis => exact .ask (inductionHypothesis isValue)
  | @wait span _ _ time _ later inductionHypothesis =>
    rw [show (span.plus time).plus late = span.plus (time.plus late) by
      simp [Duration.plus, Nat.add_assoc]]
    exact .wait (inductionHypothesis isValue)

/-- Of plans one after the other, the second one concludes from what follows the exchanges of the
first one. -/
theorem concludes_bind {next : α → Plan I β} {result : β} :
    (plan >>= next).Concludes exchanges result ↔ ∃ middle before after,
      exchanges = before ++ after ∧ plan.Concludes before middle ∧
        (next middle).Concludes after result := by
  constructor
  · rintro ⟨time, hears⟩
    rcases hears.of_bind with ⟨isNone, -⟩ |
      ⟨middle, before, between, after, late, first, second, rfl, -⟩
    · cases isNone
    · exact ⟨middle, before, after, rfl, ⟨between, first⟩, late, second⟩
  · rintro ⟨middle, before, after, rfl, ⟨between, first⟩, late, second⟩
    exact ⟨_, first.bind second⟩

/-- A value that is handed on is concluded from the same exchanges. -/
theorem concludes_map {change : α → β} {result : β} :
    (change <$> plan).Concludes exchanges result ↔
      ∃ value, plan.Concludes exchanges value ∧ result = change value := by
  have whole : change <$> plan = plan >>= fun value => .done (change value) := rfl
  simp only [whole, concludes_bind, concludes_done]
  constructor
  · rintro ⟨middle, before, after, rfl, concludes, rfl, rfl⟩
    exact ⟨middle, by rwa [List.append_nil], rfl⟩
  · rintro ⟨middle, concludes, rfl⟩
    exact ⟨middle, exchanges, [], (List.append_nil _).symm, concludes, rfl, rfl⟩

/-- Of attempts one after the other, the first one fails, or the second one concludes from what
follows. -/
theorem concludes_attempt {attempt : Attempt I ε α} {next : α → Attempt I ε β}
    {result : Except ε β} :
    (attempt >>= next).run.Concludes exchanges result ↔
      (∃ error, result = .error error ∧ attempt.run.Concludes exchanges (.error error)) ∨
        ∃ middle before after, exchanges = before ++ after ∧
          attempt.run.Concludes before (.ok middle) ∧ (next middle).run.Concludes after result := by
  have whole : (attempt >>= next).run = attempt.run >>= ExceptT.bindCont next := rfl
  rw [whole, concludes_bind]
  constructor
  · rintro ⟨error | middle, before, after, rfl, first, second⟩
    · obtain ⟨rfl, rfl⟩ := concludes_done.1 second
      exact .inl ⟨error, rfl, by rwa [List.append_nil]⟩
    · exact .inr ⟨middle, before, after, rfl, first, second⟩
  · rintro (⟨error, rfl, fails⟩ | ⟨middle, before, after, rfl, first, second⟩)
    · exact ⟨.error error, exchanges, [], (List.append_nil _).symm, fails, concludes_done.2 ⟨rfl, rfl⟩⟩
    · exact ⟨.ok middle, before, after, rfl, first, second⟩

/-- **The transcript tells the value.** In any surroundings a plan has the value that it concludes
from the exchanges there, and no other. -/
theorem transcript_value_iff {handler : Handler I σ} {state : σ} :
    (plan.transcript handler state).value = some value ↔
      plan.Concludes (plan.transcript handler state).exchanges value := by
  constructor
  · intro isValue
    obtain ⟨time, hears⟩ := hears_transcript handler plan state
    exact ⟨time, isValue ▸ hears⟩
  · induction plan generalizing state with
    | done found =>
      intro concludes
      obtain ⟨-, rfl⟩ := concludes_done.1 concludes
      rfl
    | ask question next inductionHypothesis =>
      intro concludes
      obtain ⟨answer, later, told, rest⟩ := concludes_ask.1 concludes
      obtain ⟨isTold, rfl⟩ := List.cons.inj told
      cases isTold
      exact inductionHypothesis _ rest
    | wait span next inductionHypothesis =>
      intro concludes
      exact inductionHypothesis (concludes_wait.1 concludes)
    | stall =>
      rintro ⟨time, hears⟩
      cases hears

/-- The plan asks nothing, and has the value after some waiting. -/
inductive Awaits : Plan I α → α → Prop where
  /-- It has the value. -/
  | done (value : α) : Awaits (done value) value
  /-- It waits first. -/
  | wait {span : Duration} {next : Plan I α} {value : α} (later : Awaits next value) :
      Awaits (wait span next) value

/-- A plan that only waits concludes its value from nothing. -/
theorem Awaits.concludes_iff {found : α} (awaits : plan.Awaits found) :
    plan.Concludes exchanges value ↔ exchanges = [] ∧ value = found := by
  induction awaits with
  | done found => exact concludes_done
  | wait later inductionHypothesis => rw [concludes_wait, inductionHypothesis]

/-- A plan that only waits has its value in all surroundings, and leaves them alone. -/
theorem Awaits.transcript (awaits : plan.Awaits value) (handler : Handler I σ) (state : σ) :
    plan.transcript handler state = ⟨[], some value, state⟩ := by
  induction awaits with
  | done value => rfl
  | wait later inductionHypothesis => exact inductionHypothesis

/-- Plans that only wait, one after the other, only wait. -/
theorem Awaits.bind {next : α → Plan I β} {result : β} (awaits : plan.Awaits value)
    (awaitsLater : (next value).Awaits result) : (plan >>= next).Awaits result := by
  induction awaits with
  | done value => exact awaitsLater
  | wait later inductionHypothesis => exact .wait (inductionHypothesis awaitsLater)

/-- If a value is only waited for, so is what is handed on. -/
theorem Awaits.map (awaits : plan.Awaits value) (change : α → β) :
    (change <$> plan).Awaits (change value) :=
  awaits.bind (.done (change value))

/-- A pause only waits. -/
theorem awaits_pause (span : Duration) : (pause span : Plan I Unit).Awaits () := by
  unfold pause
  split
  · exact .done ()
  · exact .wait (.done ())

/-- A plan that is cut off has no value. -/
theorem awaits_cut (limit : Duration) :
    ((pause limit).bind fun _ => .done none : Plan I (Option α)).Awaits none :=
  (awaits_pause limit).bind (.done none)

/-- A value after a pause is there within a span of time, or it is not. -/
theorem awaits_within_pause (limit span : Duration) (value : α) :
    ((pause span >>= fun _ => .done value : Plan I α).within limit.alarm).Awaits
      (if span.waited.nanoseconds ≤ limit.alarm.nanoseconds then some value else none) := by
  unfold pause
  split
  · next atOnce =>
    rw [if_pos (by simp [Duration.waited, atOnce])]
    exact .done (some value)
  · change ((Plan.wait span.waited (.done value)).within limit.alarm).Awaits _
    rw [Plan.within]
    split
    · exact .wait (.done (some value))
    · exact awaits_cut limit.alarm

end NodeScaler.Plan
