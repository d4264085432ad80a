import NodeScaler.Proofs.Plan.Asking
import NodeScaler.Proofs.Plan.Transcript

/-!
# What a plan may hear

Before anyone fixes its surroundings, a plan may be told anything. What it hears is a list of
exchanges, the time that its waits take, and its value. A plan may be dropped at any place, and is
then without a value, as one that stalls. What is heard by plans that are put together is put
together from what the plans hear.
-/

namespace NodeScaler

/-- Two lists put together into one, which keeps the order of each. -/
inductive Merged {β : Type} : List β → List β → List β → Prop where
  /-- Nothing is left. -/
  | nil : Merged [] [] []
  /-- The next entry is of the first list. -/
  | first {entry : β} {first second whole : List β} (rest : Merged first second whole) :
      Merged (entry :: first) second (entry :: whole)
  /-- The next entry is of the second list. -/
  | second {entry : β} {first second whole : List β} (rest : Merged first second whole) :
      Merged first (entry :: second) (entry :: whole)

/-- A list without entries of the first one is the second one. -/
theorem merged_nil {β : Type} (second : List β) : Merged [] second second := by
  induction second with
  | nil => exact .nil
  | cons entry rest inductionHypothesis => exact .second inductionHypothesis

/-- Entries of the second list may come before all others. -/
theorem Merged.append {β : Type} {first second whole : List β} (merged : Merged first second whole)
    (front : List β) : Merged first (front ++ second) (front ++ whole) := by
  induction front with
  | nil => exact merged
  | cons entry rest inductionHypothesis => exact .second inductionHypothesis

namespace Plan

variable {I : Interface} {σ α β : Type}

/-- The plan may hear these exchanges in this time, and then have this value. -/
inductive Hears : Plan I α → List (Exchange I) → Duration → Option α → Prop where
  /-- It is dropped where it stands, or stalls. -/
  | stop (plan : Plan I α) : Hears plan [] .zero none
  /-- It has its value. -/
  | done (value : α) : Hears (done value) [] .zero (some value)
  /-- It asks a question, is told something, and goes on. -/
  | ask {question : I.Question} {next : I.Answer question → Plan I α} {answer : I.Answer question}
      {exchanges : List (Exchange I)} {time : Duration} {value : Option α}
      (later : Hears (next answer) exchanges time value) :
      Hears (ask question next) (⟨question, answer⟩ :: exchanges) time value
  /-- It lets a span of time pass and goes on. -/
  | wait {span : Duration} {next : Plan I α} {exchanges : List (Exchange I)} {time : Duration}
      {value : Option α} (later : Hears next exchanges time value) :
      Hears (wait span next) exchanges (span.plus time) value

variable {plan : Plan I α} {exchanges : List (Exchange I)} {time : Duration}

/-- In its surroundings a plan hears what is in its transcript. -/
theorem hears_transcript (handler : Handler I σ) (plan : Plan I α) (state : σ) :
    ∃ time, plan.Hears (plan.transcript handler state).exchanges time
      (plan.transcript handler state).value := by
  induction plan generalizing state with
  | done value => exact ⟨_, .done value⟩
  | ask question next inductionHypothesis =>
    obtain ⟨time, later⟩ := inductionHypothesis _ (handler question state).2
    exact ⟨time, .ask later⟩
  | wait span next inductionHypothesis =>
    obtain ⟨time, later⟩ := inductionHypothesis state
    exact ⟨_, .wait later⟩
  | stall => exact ⟨_, .stop _⟩

/-- A plan that has its value may also be dropped. -/
theorem Hears.forget {value : Option α} (hears : plan.Hears exchanges time value) :
    plan.Hears exchanges time none := by
  induction hears with
  | stop plan => exact .stop plan
  | done value => exact .stop _
  | ask later inductionHypothesis => exact .ask inductionHypothesis
  | wait later inductionHypothesis => exact .wait inductionHypothesis

/-- A plan hears of what it asks. -/
theorem Asks.hears {allowed : I.Question → Prop} {stalls : Prop} {value : Option α}
    (asks : plan.Asks allowed stalls) (hears : plan.Hears exchanges time value) :
    ∀ exchange ∈ exchanges, allowed exchange.question := by
  induction hears with
  | stop plan => exact List.forall_mem_nil _
  | done value => exact List.forall_mem_nil _
  | ask later inductionHypothesis =>
    cases asks with
    | ask isAllowed asksLater =>
      exact List.forall_mem_cons.2 ⟨isAllowed, inductionHypothesis (asksLater _)⟩
  | wait later inductionHypothesis =>
    cases asks with
    | wait asksLater => exact inductionHypothesis asksLater

/-- A plan that asks nothing hears nothing. -/
theorem Asks.hears_nothing {stalls : Prop} {value : Option α}
    (asks : plan.Asks (fun _ => False) stalls) (hears : plan.Hears exchanges time value) :
    exchanges = [] :=
  List.eq_nil_iff_forall_not_mem.2 fun exchange isIn => asks.hears hears exchange isIn

/-- A plan that is done hears nothing. -/
theorem Hears.of_done {found : α} {value : Option α}
    (hears : (Plan.done found : Plan I α).Hears exchanges time value) :
    exchanges = [] ∧ time = .zero ∧ (value = none ∨ value = some found) := by
  cases hears with
  | stop => exact ⟨rfl, rfl, .inl rfl⟩
  | done => exact ⟨rfl, rfl, .inr rfl⟩

/-- If a plan that is done is not dropped, its value is there. -/
theorem Hears.of_done_some {found value : α}
    (hears : (Plan.done found : Plan I α).Hears exchanges time (some value)) :
    exchanges = [] ∧ time = .zero ∧ value = found := by
  cases hears
  exact ⟨rfl, rfl, rfl⟩

/-- A failure that is there at once is no success. -/
theorem Hears.of_failed {ε : Type} {error : ε} {result : Option (Except ε α)}
    (hears : (Plan.done (.error error) : Plan I (Except ε α)).Hears exchanges time result) :
    exchanges = [] ∧ ∀ value, result ≠ some (.ok value) := by
  obtain ⟨isNone, -, rfl | rfl⟩ := hears.of_done
  · exact ⟨isNone, fun value same => by cases same⟩
  · exact ⟨isNone, fun value same => by cases same⟩

/-- What plans hear one after the other: the first one is dropped, or the second one goes on with
its value. -/
theorem Hears.of_bind {next : α → Plan I β} {value : Option β}
    (hears : (plan >>= next).Hears exchanges time value) :
    (value = none ∧ plan.Hears exchanges time none) ∨
      ∃ middle before between after late, plan.Hears before between (some middle) ∧
        (next middle).Hears after late value ∧ exchanges = before ++ after ∧
        time = between.plus late := by
  induction plan generalizing exchanges time with
  | done middle =>
    exact .inr ⟨middle, [], .zero, exchanges, time, .done middle, hears, rfl, by
      simp [Duration.plus, Duration.zero]⟩
  | ask question rest inductionHypothesis =>
    cases hears with
    | stop => exact .inl ⟨rfl, .stop _⟩
    | ask later =>
      rcases inductionHypothesis _ later with ⟨rfl, dropped⟩ |
        ⟨middle, before, between, after, late, first, second, rfl, rfl⟩
      · exact .inl ⟨rfl, .ask dropped⟩
      · exact .inr ⟨middle, _, between, after, late, .ask first, second, rfl, rfl⟩
  | wait span rest inductionHypothesis =>
    cases hears with
    | stop => exact .inl ⟨rfl, .stop _⟩
    | wait later =>
      rcases inductionHypothesis later with ⟨rfl, dropped⟩ |
        ⟨middle, before, between, after, late, first, second, rfl, rfl⟩
      · exact .inl ⟨rfl, .wait dropped⟩
      · exact .inr ⟨middle, before, _, after, late, .wait first, second, rfl, by
          simp [Duration.plus, Nat.add_assoc]⟩
  | stall =>
    cases hears with
    | stop => exact .inl ⟨rfl, .stop _⟩

/-- What is heard before a value is handed on. -/
theorem Hears.of_map {change : α → β} {value : Option β}
    (hears : (change <$> plan).Hears exchanges time value) :
    ∃ found, plan.Hears exchanges time found ∧ value = found.map change := by
  have whole : (plan >>= fun value => .done (change value)).Hears exchanges time value := hears
  rcases whole.of_bind with ⟨rfl, dropped⟩ |
    ⟨middle, before, between, after, late, first, second, rfl, rfl⟩
  · exact ⟨none, dropped, rfl⟩
  · obtain ⟨rfl, rfl, rfl | rfl⟩ := Hears.of_done second
    · exact ⟨none, by rw [List.append_nil]; exact first.forget, rfl⟩
    · exact ⟨some middle, by rw [List.append_nil]; exact first, rfl⟩

/-- A value is there also when failures are seen as those of another kind. -/
theorem mapError_eq_ok {ε ε' : Type} {change : ε → ε'} {result : Except ε α} {value : α} :
    result.mapError change = .ok value ↔ result = .ok value := by
  constructor
  · intro isOk
    cases result with
    | error => cases isOk
    | ok =>
      cases isOk
      rfl
  · rintro rfl
    rfl

/-- A failure that is seen as one of another kind. -/
theorem mapError_eq_error {ε ε' : Type} {change : ε → ε'} {result : Except ε α} {error : ε'} :
    result.mapError change = .error error ↔ ∃ cause, result = .error cause ∧ error = change cause := by
  constructor
  · intro isError
    cases result with
    | error cause =>
      cases isError
      exact ⟨cause, rfl, rfl⟩
    | ok => cases isError
  · rintro ⟨cause, rfl, rfl⟩
    rfl

/-- What attempts hear one after the other: the first one is dropped, it fails, or the second one
goes on with its value. -/
theorem Hears.of_attempt {ε : Type} {attempt : Attempt I ε α} {next : α → Attempt I ε β}
    {result : Option (Except ε β)} (hears : (attempt >>= next).run.Hears exchanges time result) :
    (result = none ∧ attempt.run.Hears exchanges time none) ∨
      (∃ error, result = some (.error error) ∧
        attempt.run.Hears exchanges time (some (.error error))) ∨
      ∃ middle before between after late, attempt.run.Hears before between (some (.ok middle)) ∧
        (next middle).run.Hears after late result ∧ exchanges = before ++ after ∧
        time = between.plus late := by
  have whole : (attempt.run >>= ExceptT.bindCont next).Hears exchanges time result := hears
  rcases whole.of_bind with ⟨rfl, dropped⟩ |
    ⟨middle, before, between, after, late, first, second, rfl, rfl⟩
  · exact .inl ⟨rfl, dropped⟩
  · cases middle with
    | error error =>
      obtain ⟨rfl, rfl, rfl | rfl⟩ := Hears.of_done second
      · exact .inl ⟨rfl, by rw [List.append_nil]; exact first.forget⟩
      · exact .inr (.inl ⟨error, rfl, by rw [List.append_nil]; exact first⟩)
    | ok middle => exact .inr (.inr ⟨middle, _, _, _, _, first, second, rfl, rfl⟩)

/-- If attempts one after the other are not dropped, the first one fails, or the second one goes on with
its value. -/
theorem Hears.of_attempt_some {ε : Type} {attempt : Attempt I ε α} {next : α → Attempt I ε β}
    {result : Except ε β} (hears : (attempt >>= next).run.Hears exchanges time (some result)) :
    (∃ error, result = .error error ∧ attempt.run.Hears exchanges time (some (.error error))) ∨
      ∃ middle before between after late, attempt.run.Hears before between (some (.ok middle)) ∧
        (next middle).run.Hears after late (some result) ∧ exchanges = before ++ after ∧
        time = between.plus late := by
  rcases hears.of_attempt with ⟨same, -⟩ | ⟨error, same, failed⟩ | both
  · cases same
  · exact .inl ⟨error, Option.some.inj same, failed⟩
  · exact .inr both

/-- If attempts one after the other succeed, both of them do. -/
theorem Hears.of_attempt_ok {ε : Type} {attempt : Attempt I ε α} {next : α → Attempt I ε β}
    {value : β} (hears : (attempt >>= next).run.Hears exchanges time (some (.ok value))) :
    ∃ middle before between after late, attempt.run.Hears before between (some (.ok middle)) ∧
      (next middle).run.Hears after late (some (.ok value)) ∧ exchanges = before ++ after ∧
      time = between.plus late := by
  rcases hears.of_attempt_some with ⟨error, same, -⟩ | both
  · cases same
  · exact both

/-- Nothing is heard while a plan waits to be cut off. -/
theorem Hears.of_cut {limit : Duration} {value : Option (Option α)}
    (hears : ((pause limit).bind fun _ => .done none : Plan I (Option α)).Hears exchanges time
      value) : exchanges = [] ∧ (value = none ∨ value = some none) := by
  unfold pause at hears
  split at hears
  · obtain ⟨rfl, -, isValue⟩ := Hears.of_done hears
    exact ⟨rfl, isValue⟩
  · cases hears with
    | stop => exact ⟨rfl, .inl rfl⟩
    | wait later =>
      obtain ⟨rfl, -, isValue⟩ := Hears.of_done later
      exact ⟨rfl, isValue⟩

/-- What is heard until a span of time is over: all of it, if it takes no longer, or a beginning. -/
theorem Hears.of_within {limit : Duration} {value : Option (Option α)}
    (hears : (plan.within limit).Hears exchanges time value) :
    (∃ found, value = some (some found) ∧ plan.Hears exchanges time (some found) ∧
      time.nanoseconds ≤ limit.nanoseconds) ∨
      (value = none ∨ value = some none) ∧ ∃ begun, plan.Hears exchanges begun none := by
  induction plan generalizing exchanges time limit with
  | done found =>
    obtain ⟨rfl, rfl, rfl | rfl⟩ := Hears.of_done hears
    · exact .inr ⟨.inl rfl, _, .stop _⟩
    · exact .inl ⟨found, rfl, .done found, Nat.zero_le _⟩
  | ask question next inductionHypothesis =>
    cases hears with
    | stop => exact .inr ⟨.inl rfl, _, .stop _⟩
    | ask later =>
      rcases inductionHypothesis _ later with ⟨found, rfl, all, inTime⟩ | ⟨isNone, begun, beginning⟩
      · exact .inl ⟨found, rfl, .ask all, inTime⟩
      · exact .inr ⟨isNone, begun, .ask beginning⟩
  | wait span next inductionHypothesis =>
    rw [within] at hears
    split at hears
    · next fits =>
      cases hears with
      | stop => exact .inr ⟨.inl rfl, _, .stop _⟩
      | wait later =>
        rcases inductionHypothesis later with ⟨found, rfl, all, inTime⟩ | ⟨isNone, begun, beginning⟩
        · refine .inl ⟨found, rfl, .wait all, ?_⟩
          simp only [Duration.plus, Duration.less] at inTime ⊢
          omega
        · exact .inr ⟨isNone, _, .wait beginning⟩
    · obtain ⟨rfl, isNone⟩ := Hears.of_cut hears
      exact .inr ⟨isNone, _, .stop _⟩
  | stall =>
    obtain ⟨rfl, isNone⟩ := Hears.of_cut hears
    exact .inr ⟨isNone, _, .stop _⟩

end Plan

end NodeScaler
