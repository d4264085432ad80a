import NodeScaler.Proofs.Plan.Concluding

/-!
# How far plans come side by side

A plan ends with a value, or it gets stuck, or it is dropped because nobody waits for it any more. What
comes of two attempts side by side is decided by how far each of them comes: both have a value, or one
fails for both and the other one may be dropped, or nobody fails and one of them is stuck. The exchanges
of the two are put together in some order of turns. What is heard side by side is a part of this.
-/

namespace NodeScaler.Plan

variable {I : Interface} {σ α β γ ε ε' : Type} {plan : Plan I α} {exchanges : List (Exchange I)}

/-- How far a plan comes. -/
inductive Progress (α : Type) where
  /-- It ends with a value. -/
  | ended (value : α)
  /-- It waits for something that does not happen. -/
  | stuck
  /-- It does not go on, though it could. -/
  | dropped

/-- The progress of a plan whose value is handed on. -/
def Progress.map (change : α → β) : Progress α → Progress β
  | ended value => ended (change value)
  | stuck => stuck
  | dropped => dropped

/-- The value of a plan that has one. -/
def Progress.value? : Progress α → Option α
  | ended value => some value
  | stuck | dropped => none

/-- The plan hears just these exchanges, and comes so far. -/
inductive Comes : Plan I α → List (Exchange I) → Progress α → Prop where
  /-- It has its value. -/
  | done (value : α) : Comes (done value) [] (.ended value)
  /-- It stalls. -/
  | stall : Comes stall [] .stuck
  /-- It is dropped where it stands. -/
  | drop (plan : Plan I α) : Comes plan [] .dropped
  /-- It asks a question, is told something, and goes on. -/
  | ask {question : I.Question} {next : I.Answer question → Plan I α} {answer : I.Answer question}
      {exchanges : List (Exchange I)} {progress : Progress α}
      (later : Comes (next answer) exchanges progress) :
      Comes (ask question next) (⟨question, answer⟩ :: exchanges) progress
  /-- It waits and goes on. -/
  | wait {span : Duration} {next : Plan I α} {exchanges : List (Exchange I)} {progress : Progress α}
      (later : Comes next exchanges progress) : Comes (wait span next) exchanges progress

/-! ## One plan -/

/-- What a plan has heard, it has heard on its way. -/
theorem Hears.comes {time : Duration} {value : Option α} (hears : plan.Hears exchanges time value) :
    ∃ progress, plan.Comes exchanges progress ∧ progress.value? = value := by
  induction hears with
  | stop plan => exact ⟨.dropped, .drop plan, rfl⟩
  | done value => exact ⟨.ended value, .done value, rfl⟩
  | ask later inductionHypothesis =>
    obtain ⟨progress, comes, isValue⟩ := inductionHypothesis
    exact ⟨progress, .ask comes, isValue⟩
  | wait later inductionHypothesis =>
    obtain ⟨progress, comes, isValue⟩ := inductionHypothesis
    exact ⟨progress, .wait comes, isValue⟩

/-- A plan that comes so far may also be dropped there. -/
theorem Comes.forget {progress : Progress α} (comes : plan.Comes exchanges progress) :
    plan.Comes exchanges .dropped := by
  induction comes with
  | done value => exact .drop _
  | stall => exact .drop _
  | drop plan => exact .drop plan
  | ask later inductionHypothesis => exact .ask inductionHypothesis
  | wait later inductionHypothesis => exact .wait inductionHypothesis

/-- On its way a plan takes some time. -/
theorem Comes.hears {progress : Progress α} (comes : plan.Comes exchanges progress) :
    ∃ time, plan.Hears exchanges time progress.value? := by
  induction comes with
  | done value => exact ⟨_, .done value⟩
  | stall => exact ⟨_, .stop _⟩
  | drop plan => exact ⟨_, .stop plan⟩
  | ask later inductionHypothesis =>
    obtain ⟨time, hears⟩ := inductionHypothesis
    exact ⟨time, .ask hears⟩
  | wait later inductionHypothesis =>
    obtain ⟨time, hears⟩ := inductionHypothesis
    exact ⟨_, .wait hears⟩

/-- A plan ends with the value that it concludes. -/
theorem comes_ended_iff {value : α} :
    plan.Comes exchanges (.ended value) ↔ plan.Concludes exchanges value := by
  constructor
  · exact Comes.hears
  · rintro ⟨time, hears⟩
    obtain ⟨progress, comes, isValue⟩ := hears.comes
    cases progress <;> cases isValue
    exact comes

/-- In its surroundings a plan ends or gets stuck; it is never dropped. -/
theorem comes_transcript (handler : Handler I σ) (plan : Plan I α) (state : σ) :
    ∃ progress, plan.Comes (plan.transcript handler state).exchanges progress ∧
      progress ≠ .dropped ∧ (plan.transcript handler state).value = progress.value? := by
  induction plan generalizing state with
  | done value => exact ⟨.ended value, .done value, by simp, rfl⟩
  | ask question next inductionHypothesis =>
    obtain ⟨progress, later, goesOn, isValue⟩ := inductionHypothesis _ (handler question state).2
    exact ⟨progress, .ask later, goesOn, isValue⟩
  | wait span next inductionHypothesis =>
    obtain ⟨progress, later, goesOn, isValue⟩ := inductionHypothesis state
    exact ⟨progress, .wait later, goesOn, isValue⟩
  | stall => exact ⟨.stuck, .stall, by simp, rfl⟩

/-- A plan after another one is there only if the first one has ended; otherwise the two come as far as
the first one. -/
theorem Comes.of_bind {next : α → Plan I β} {progress : Progress β}
    (comes : (plan >>= next).Comes exchanges progress) :
    (progress = .dropped ∧ plan.Comes exchanges .dropped) ∨
      (progress = .stuck ∧ plan.Comes exchanges .stuck) ∨
      ∃ middle before after, exchanges = before ++ after ∧ plan.Comes before (.ended middle) ∧
        (next middle).Comes after progress := by
  induction plan generalizing exchanges with
  | done middle => exact .inr (.inr ⟨middle, [], exchanges, rfl, .done middle, comes⟩)
  | ask question rest inductionHypothesis =>
    cases comes with
    | drop => exact .inl ⟨rfl, .drop _⟩
    | ask later =>
      rcases inductionHypothesis _ later with ⟨rfl, dropped⟩ | ⟨rfl, stuck⟩ |
        ⟨middle, before, after, rfl, first, second⟩
      · exact .inl ⟨rfl, .ask dropped⟩
      · exact .inr (.inl ⟨rfl, .ask stuck⟩)
      · exact .inr (.inr ⟨middle, _, after, rfl, .ask first, second⟩)
  | wait span rest inductionHypothesis =>
    cases comes with
    | drop => exact .inl ⟨rfl, .drop _⟩
    | wait later =>
      rcases inductionHypothesis later with ⟨rfl, dropped⟩ | ⟨rfl, stuck⟩ |
        ⟨middle, before, after, rfl, first, second⟩
      · exact .inl ⟨rfl, .wait dropped⟩
      · exact .inr (.inl ⟨rfl, .wait stuck⟩)
      · exact .inr (.inr ⟨middle, before, after, rfl, .wait first, second⟩)
  | stall =>
    cases comes with
    | drop => exact .inl ⟨rfl, .drop _⟩
    | stall => exact .inr (.inl ⟨rfl, .stall⟩)

/-- What comes of the exchanges of a transcript is what has come of the plan, unless it is dropped. -/
theorem Comes.transcript_value {handler : Handler I σ} {state : σ} {progress : Progress α}
    (comes : plan.Comes (plan.transcript handler state).exchanges progress)
    (goesOn : progress ≠ .dropped) :
    (plan.transcript handler state).value = progress.value? := by
  induction plan generalizing state with
  | done value =>
    generalize ((Plan.done value : Plan I α).transcript handler state).exchanges = all at comes
    cases comes with
    | done => rfl
    | drop => exact absurd rfl goesOn
  | ask question next inductionHypothesis =>
    generalize told : ((Plan.ask question next).transcript handler state).exchanges = all at comes
    cases comes with
    | drop => exact absurd rfl goesOn
    | ask later =>
      obtain ⟨isTold, rest⟩ := List.cons.inj told
      cases isTold
      exact inductionHypothesis _ (rest ▸ later)
  | wait span next inductionHypothesis =>
    generalize told : ((Plan.wait span next).transcript handler state).exchanges = all at comes
    cases comes with
    | drop => exact absurd rfl goesOn
    | wait later => exact inductionHypothesis (told ▸ later)
  | stall =>
    generalize ((Plan.stall : Plan I α).transcript handler state).exchanges = all at comes
    cases comes with
    | stall => rfl
    | drop => exact absurd rfl goesOn

/-- **The transcript tells how far a plan comes.** In its surroundings a plan comes as far as it does
with the exchanges of its own transcript. -/
theorem transcript_value_eq {handler : Handler I σ} {state : σ} {progress : Progress α}
    (goesOn : progress ≠ .dropped) :
    (plan.transcript handler state).value = progress.value? ↔
      plan.Comes (plan.transcript handler state).exchanges progress := by
  constructor
  · intro isValue
    obtain ⟨other, comes, goesOnToo, isOther⟩ := comes_transcript handler plan state
    have same : progress.value? = other.value? := isValue.symm.trans isOther
    cases progress <;> cases other <;> simp_all [Progress.value?]
  · exact fun comes => comes.transcript_value goesOn

/-- A plan whose value is handed on comes as far as without that. -/
theorem Comes.of_map {change : α → β} {progress : Progress β}
    (comes : (change <$> plan).Comes exchanges progress) :
    ∃ own, plan.Comes exchanges own ∧ progress = own.map change := by
  have whole : (plan >>= fun value => .done (change value)).Comes exchanges progress := comes
  rcases whole.of_bind with ⟨rfl, dropped⟩ | ⟨rfl, stuck⟩ |
    ⟨middle, before, after, rfl, ended, ending⟩
  · exact ⟨_, dropped, rfl⟩
  · exact ⟨_, stuck, rfl⟩
  · cases ending with
    | done => exact ⟨_, by rw [List.append_nil]; exact ended, rfl⟩
    | drop => exact ⟨.dropped, by rw [List.append_nil]; exact ended.forget, rfl⟩

/-- Plans one after the other come as far as the second one does. -/
theorem Comes.bind {next : α → Plan I β} {middle : α} {before after : List (Exchange I)}
    {progress : Progress β} (first : plan.Comes before (.ended middle))
    (second : (next middle).Comes after progress) :
    (plan >>= next).Comes (before ++ after) progress := by
  generalize ends : Progress.ended middle = ending at first
  induction first with
  | done value =>
    cases ends
    exact second
  | stall => cases ends
  | drop => cases ends
  | ask later inductionHypothesis => exact .ask (inductionHypothesis ends)
  | wait later inductionHypothesis => exact .wait (inductionHypothesis ends)

/-- Nothing follows a plan that is stuck. -/
theorem Comes.bind_stuck {next : α → Plan I β} (stuck : plan.Comes exchanges .stuck) :
    (plan >>= next).Comes exchanges .stuck := by
  generalize ends : Progress.stuck = ending at stuck
  induction stuck with
  | done => cases ends
  | stall => exact .stall
  | drop => cases ends
  | ask later inductionHypothesis => exact .ask (inductionHypothesis ends)
  | wait later inductionHypothesis => exact .wait (inductionHypothesis ends)

/-- A plan comes as far when its value is handed on. -/
theorem Comes.map {progress : Progress α} (comes : plan.Comes exchanges progress) (change : α → β) :
    (change <$> plan).Comes exchanges (progress.map change) := by
  induction comes with
  | done value => exact .done (change value)
  | stall => exact .stall
  | drop => exact .drop _
  | ask later inductionHypothesis => exact .ask inductionHypothesis
  | wait later inductionHypothesis => exact .wait inductionHypothesis

/-! ## Attempts one after the other -/

/-- An attempt that has come to no value: it has failed, or it is stuck. -/
def Progress.halted : Option ε → Progress (Except ε α)
  | some error => ended (.error error)
  | none => stuck

/-- Attempts one after the other have a value when both have one. -/
theorem comes_attempt_ok {attempt : Attempt I ε α} {next : α → Attempt I ε β} {value : β} :
    (attempt >>= next).run.Comes exchanges (.ended (.ok value)) ↔ ∃ middle before after,
      exchanges = before ++ after ∧ attempt.run.Comes before (.ended (.ok middle)) ∧
        (next middle).run.Comes after (.ended (.ok value)) := by
  simp only [comes_ended_iff, concludes_attempt, reduceCtorEq, false_and, exists_false, false_or]

/-- Attempts one after the other come to no value when the first one does, or when the second one
does after the value of the first. -/
theorem comes_attempt_halted {attempt : Attempt I ε α} {next : α → Attempt I ε β}
    {halt : Option ε} :
    (attempt >>= next).run.Comes exchanges (.halted halt) ↔
      attempt.run.Comes exchanges (.halted halt) ∨ ∃ middle before after,
        exchanges = before ++ after ∧ attempt.run.Comes before (.ended (.ok middle)) ∧
          (next middle).run.Comes after (.halted halt) := by
  cases halt with
  | some error =>
    simp only [Progress.halted, comes_ended_iff, concludes_attempt, Except.error.injEq,
      exists_eq_left']
  | none =>
    have whole : (attempt >>= next).run = attempt.run >>= ExceptT.bindCont next := rfl
    rw [whole]
    constructor
    · intro comes
      rcases comes.of_bind with ⟨isDropped, -⟩ | ⟨-, stuck⟩ | ⟨found, before, after, rfl, first, second⟩
      · cases isDropped
      · exact .inl stuck
      · cases found with
        | error error => cases second
        | ok middle => exact .inr ⟨middle, before, after, rfl, first, second⟩
    · rintro (stuck | ⟨middle, before, after, rfl, first, second⟩)
      · exact stuck.bind_stuck
      · exact first.bind second

/-! ## Two plans -/

/-- The attempt has not failed. -/
def Progress.Unfailed (progress : Progress (Except ε α)) : Prop :=
  ∀ error, progress ≠ .ended (.error error)

/-- How far two attempts come together. -/
inductive Progress.Joins :
    Progress (Except ε α) → Progress (Except ε β) → Progress (Except ε (α × β)) → Prop where
  /-- Both have a value. -/
  | ok (value : α) (other : β) :
      Joins (.ended (.ok value)) (.ended (.ok other)) (.ended (.ok (value, other)))
  /-- The first one has failed, before the second one could. -/
  | first (error : ε) {other : Progress (Except ε β)} (unfailed : other.Unfailed) :
      Joins (.ended (.error error)) other (.ended (.error error))
  /-- The second one has failed, before the first one could. -/
  | second (error : ε) {progress : Progress (Except ε α)} (unfailed : progress.Unfailed) :
      Joins progress (.ended (.error error)) (.ended (.error error))
  /-- The first one is stuck; the second one is stuck, too, or has a value. -/
  | firstStuck {other : Progress (Except ε β)} (goesOn : other ≠ .dropped)
      (unfailed : other.Unfailed) : Joins .stuck other .stuck
  /-- The second one is stuck, and the first one has a value. -/
  | secondStuck (value : α) : Joins (.ended (.ok value)) .stuck .stuck
  /-- Both are dropped, wherever they stand. -/
  | dropped (progress : Progress (Except ε α)) (other : Progress (Except ε β)) :
      Joins progress other .dropped

/-- A plan that does not go on has not failed. -/
theorem Progress.unfailed_dropped : (Progress.dropped : Progress (Except ε α)).Unfailed := by
  simp [Unfailed]

/-- A plan that is stuck has not failed. -/
theorem Progress.unfailed_stuck : (Progress.stuck : Progress (Except ε α)).Unfailed := by
  simp [Unfailed]

/-- A plan that has a value has not failed. -/
theorem Progress.unfailed_ok (value : α) :
    (Progress.ended (.ok value) : Progress (Except ε α)).Unfailed := by
  simp [Unfailed]

/-- A value is there also when failures are seen as those of another kind. -/
theorem Progress.map_eq_ok {change : ε → ε'} {progress : Progress (Except ε α)} {value : α} :
    progress.map (Except.mapError change) = .ended (.ok value) ↔ progress = .ended (.ok value) := by
  cases progress <;> simp [Progress.map, mapError_eq_ok]

/-- A failure that is seen as one of another kind. -/
theorem Progress.map_eq_error {change : ε → ε'} {progress : Progress (Except ε α)} {error : ε'} :
    progress.map (Except.mapError change) = .ended (.error error) ↔
      ∃ cause, progress = .ended (.error cause) ∧ error = change cause := by
  cases progress <;> simp [Progress.map, mapError_eq_error]

/-- A plan whose value is handed on is stuck just where the plan is. -/
theorem Progress.map_eq_stuck {change : α → β} {progress : Progress α} :
    progress.map change = .stuck ↔ progress = .stuck := by
  cases progress <;> simp [Progress.map]

/-- A plan whose value is handed on is dropped just where the plan is. -/
theorem Progress.map_eq_dropped {change : α → β} {progress : Progress α} :
    progress.map change = .dropped ↔ progress = .dropped := by
  cases progress <;> simp [Progress.map]

/-- An attempt has its value also when its failures are seen as those of another kind. -/
theorem comes_mapError_ok {change : ε → ε'} {attempt : Attempt I ε α} {value : α} :
    (attempt.mapError change).run.Comes exchanges (.ended (.ok value)) ↔
      attempt.run.Comes exchanges (.ended (.ok value)) := by
  constructor
  · intro comes
    have whole : (Except.mapError change <$> attempt.run).Comes exchanges _ := comes
    obtain ⟨own, alone, isMapped⟩ := whole.of_map
    rwa [Progress.map_eq_ok.1 isMapped.symm] at alone
  · exact fun comes => comes.map (Except.mapError change)

/-- An attempt comes to no value, and its failure is seen as one of another kind. -/
theorem comes_mapError_halted {change : ε → ε'} {attempt : Attempt I ε α} {halt : Option ε'} :
    (attempt.mapError change).run.Comes exchanges (.halted halt) ↔
      ∃ own, attempt.run.Comes exchanges (.halted own) ∧ halt = own.map change := by
  constructor
  · intro comes
    have whole : (Except.mapError change <$> attempt.run).Comes exchanges _ := comes
    obtain ⟨own, alone, isMapped⟩ := whole.of_map
    cases halt with
    | some error =>
      obtain ⟨cause, rfl, rfl⟩ := Progress.map_eq_error.1 isMapped.symm
      exact ⟨some cause, alone, rfl⟩
    | none =>
      obtain rfl := Progress.map_eq_stuck.1 isMapped.symm
      exact ⟨none, alone, rfl⟩
  · rintro ⟨own, comes, rfl⟩
    cases own <;> exact comes.map (Except.mapError change)

/-- The value of an attempt is handed on. -/
theorem comes_handed_ok {change : α → β} {attempt : Attempt I ε α} {value : β} :
    (change <$> attempt).run.Comes exchanges (.ended (.ok value)) ↔
      ∃ own, attempt.run.Comes exchanges (.ended (.ok own)) ∧ value = change own := by
  rw [ExceptT.run_map]
  constructor
  · intro comes
    obtain ⟨(error | own) | - | -, alone, isMapped⟩ := comes.of_map <;> cases isMapped
    exact ⟨own, alone, rfl⟩
  · rintro ⟨own, comes, rfl⟩
    exact comes.map _

/-- An attempt comes to no value just where it comes to none that is handed on. -/
theorem comes_handed_halted {change : α → β} {attempt : Attempt I ε α} {halt : Option ε} :
    (change <$> attempt).run.Comes exchanges (.halted halt) ↔
      attempt.run.Comes exchanges (.halted halt) := by
  rw [ExceptT.run_map]
  constructor
  · intro comes
    cases halt <;> obtain ⟨(error | own) | - | -, alone, isMapped⟩ := comes.of_map <;>
      cases isMapped <;> exact alone
  · intro comes
    cases halt <;> exact comes.map _

/-- An attempt has not failed if it has no failure of another kind. -/
theorem Progress.Unfailed.of_map {change : ε → ε'} {progress : Progress (Except ε α)}
    (unfailed : (progress.map (Except.mapError change)).Unfailed) : progress.Unfailed :=
  fun error failed => unfailed (change error) (Progress.map_eq_error.2 ⟨error, failed, rfl⟩)

/-- Attempts come as far together when their failures are seen as those of another kind. -/
theorem Progress.Joins.of_map {change : ε → ε'} {one : Progress (Except ε α)}
    {other : Progress (Except ε β)} {progress : Progress (Except ε' (α × β))}
    (joins : Joins (one.map (Except.mapError change)) (other.map (Except.mapError change)) progress) :
    ∃ own, Joins one other own ∧ progress = own.map (Except.mapError change) := by
  generalize isOne : one.map (Except.mapError change) = first at joins
  generalize isOther : other.map (Except.mapError change) = second at joins
  cases joins with
  | ok value beside =>
    obtain rfl := map_eq_ok.1 isOne
    obtain rfl := map_eq_ok.1 isOther
    exact ⟨_, .ok value beside, rfl⟩
  | first error unfailed =>
    obtain ⟨cause, rfl, rfl⟩ := map_eq_error.1 isOne
    exact ⟨_, .first cause (isOther ▸ unfailed).of_map, rfl⟩
  | second error unfailed =>
    obtain ⟨cause, rfl, rfl⟩ := map_eq_error.1 isOther
    exact ⟨_, .second cause (isOne ▸ unfailed).of_map, rfl⟩
  | firstStuck goesOn unfailed =>
    obtain rfl := map_eq_stuck.1 isOne
    refine ⟨_, .firstStuck (fun isDropped => ?_) (isOther ▸ unfailed).of_map, rfl⟩
    exact goesOn (isOther ▸ map_eq_dropped.2 isDropped)
  | secondStuck value =>
    obtain rfl := map_eq_ok.1 isOne
    obtain rfl := map_eq_stuck.1 isOther
    exact ⟨_, .secondStuck value, rfl⟩
  | dropped => exact ⟨_, .dropped one other, rfl⟩

/-- While one attempt waits, the other one is dropped, or it fails, or the two go on from where it then
is. -/
theorem Comes.of_meanwhile {resume : Plan I (Except ε β) → Plan I (Except ε γ)} {span : Duration}
    {second : Plan I (Except ε β)} {progress : Progress (Except ε γ)}
    (comes : (Plan.meanwhile resume span second).Comes exchanges progress) :
    (progress = .dropped ∧ second.Comes exchanges .dropped) ∨
      (∃ error, progress = .ended (.error error) ∧ second.Comes exchanges (.ended (.error error))) ∨
      ∃ rest before after, exchanges = before ++ after ∧ (resume rest).Comes after progress ∧
        ∀ {told other}, rest.Comes told other → second.Comes (before ++ told) other := by
  induction second generalizing exchanges span with
  | done found =>
    cases found with
    | error error =>
      cases comes with
      | done => exact .inr (.inl ⟨error, rfl, .done _⟩)
      | drop => exact .inl ⟨rfl, .drop _⟩
    | ok value =>
      cases comes with
      | drop => exact .inl ⟨rfl, .drop _⟩
      | wait later => exact .inr (.inr ⟨_, [], _, rfl, later, id⟩)
  | ask question next inductionHypothesis =>
    cases comes with
    | drop => exact .inl ⟨rfl, .drop _⟩
    | ask later =>
      rcases inductionHypothesis _ later with ⟨rfl, dropped⟩ | ⟨error, rfl, failed⟩ |
        ⟨rest, before, after, rfl, resumed, behind⟩
      · exact .inl ⟨rfl, .ask dropped⟩
      · exact .inr (.inl ⟨error, rfl, .ask failed⟩)
      · exact .inr (.inr ⟨rest, _ :: before, after, rfl, resumed, fun told => .ask (behind told)⟩)
  | wait other next inductionHypothesis =>
    rw [Plan.meanwhile] at comes
    split at comes
    · cases comes with
      | drop => exact .inl ⟨rfl, .drop _⟩
      | wait later =>
        rcases inductionHypothesis later with ⟨rfl, dropped⟩ | ⟨error, rfl, failed⟩ |
          ⟨rest, before, after, rfl, resumed, behind⟩
        · exact .inl ⟨rfl, .wait dropped⟩
        · exact .inr (.inl ⟨error, rfl, .wait failed⟩)
        · exact .inr (.inr ⟨rest, before, after, rfl, resumed, fun told => .wait (behind told)⟩)
    · split at comes
      · cases comes with
        | drop => exact .inl ⟨rfl, .drop _⟩
        | wait later => exact .inr (.inr ⟨next, [], _, rfl, later, fun told => .wait told⟩)
      · cases comes with
        | drop => exact .inl ⟨rfl, .drop _⟩
        | wait later =>
          refine .inr (.inr ⟨_, [], _, rfl, later, fun told => ?_⟩)
          cases told with
          | drop => exact .drop _
          | wait told => exact .wait told
  | stall =>
    cases comes with
    | drop => exact .inl ⟨rfl, .drop _⟩
    | wait later => exact .inr (.inr ⟨_, [], _, rfl, later, id⟩)

/-- **Side by side.** How far two attempts come together is decided by how far each of them comes. -/
theorem Comes.of_both {first : Plan I (Except ε α)} {second : Plan I (Except ε β)}
    {progress : Progress (Except ε (α × β))}
    (comes : (Plan.both first second).Comes exchanges progress) :
    ∃ own one others other, first.Comes own one ∧ second.Comes others other ∧
      Merged own others exchanges ∧ Progress.Joins one other progress := by
  induction first generalizing exchanges second with
  | done found =>
    cases found with
    | error error =>
      cases comes with
      | drop => exact ⟨_, _, _, _, .drop _, .drop second, .nil, .dropped _ _⟩
      | done =>
        exact ⟨_, _, _, _, .done _, .drop second, .nil, .first error Progress.unfailed_dropped⟩
    | ok value =>
      have whole : (Except.map (value, ·) <$> second).Comes exchanges progress := comes
      obtain ⟨other, alone, rfl⟩ := whole.of_map
      refine ⟨_, _, _, _, .done _, alone, merged_nil _, ?_⟩
      rcases other with (error | other) | - | -
      · exact .second error (Progress.unfailed_ok value)
      · exact .ok value other
      · exact .secondStuck value
      · exact .dropped _ _
  | ask question next inductionHypothesis =>
    cases comes with
    | drop => exact ⟨_, _, _, _, .drop _, .drop second, .nil, .dropped _ _⟩
    | ask later =>
      obtain ⟨own, one, others, other, alone, beside, merged, joins⟩ := inductionHypothesis _ later
      exact ⟨_, _, _, _, .ask alone, beside, .first merged, joins⟩
  | wait span next inductionHypothesis =>
    rw [Plan.both] at comes
    rcases comes.of_meanwhile with ⟨rfl, dropped⟩ | ⟨error, rfl, failed⟩ |
      ⟨rest, before, after, rfl, resumed, behind⟩
    · exact ⟨_, _, _, _, .drop _, dropped, merged_nil _, .dropped _ _⟩
    · exact ⟨_, _, _, _, .drop _, failed, merged_nil _, .second error Progress.unfailed_dropped⟩
    · obtain ⟨own, one, others, other, alone, beside, merged, joins⟩ := inductionHypothesis resumed
      exact ⟨_, _, _, _, .wait alone, behind beside, merged.append before, joins⟩
  | stall =>
    have whole : (second >>= _).Comes exchanges progress := comes
    rcases whole.of_bind with ⟨rfl, dropped⟩ | ⟨rfl, stuck⟩ | ⟨other, before, after, rfl, alone, ending⟩
    · exact ⟨_, _, _, _, .stall, dropped, merged_nil _, .dropped _ _⟩
    · exact ⟨_, _, _, _, .stall, stuck, merged_nil _,
        .firstStuck (by simp) Progress.unfailed_stuck⟩
    · refine ⟨[], .stuck, before, .ended other, .stall, alone, ?_⟩
      cases other with
      | error error =>
        cases ending with
        | drop => exact ⟨by rw [List.append_nil]; exact merged_nil _, .dropped _ _⟩
        | done =>
          exact ⟨by rw [List.append_nil]; exact merged_nil _, .second error Progress.unfailed_stuck⟩
      | ok other =>
        cases ending with
        | drop => exact ⟨by rw [List.append_nil]; exact merged_nil _, .dropped _ _⟩
        | stall =>
          exact ⟨by rw [List.append_nil]; exact merged_nil _,
            .firstStuck (by simp) (Progress.unfailed_ok other)⟩

/-! ## What is heard side by side -/

/-- The result of two attempts side by side follows from what the two have come to: both have a
value, or one of them has failed. -/
inductive Joint : Option (Except ε α) → Option (Except ε β) → Option (Except ε (α × β)) → Prop where
  /-- Both have a value. -/
  | ok (value : α) (other : β) :
      Joint (some (.ok value)) (some (.ok other)) (some (.ok (value, other)))
  /-- The first one has failed. -/
  | first (error : ε) (other : Option (Except ε β)) :
      Joint (some (.error error)) other (some (.error error))
  /-- The second one has failed. -/
  | second (error : ε) (value : Option (Except ε α)) :
      Joint value (some (.error error)) (some (.error error))
  /-- They are dropped, or wait for ever. -/
  | none (value : Option (Except ε α)) (other : Option (Except ε β)) : Joint value other none

/-- The values of attempts that come so far together. -/
theorem Progress.Joins.joint {one : Progress (Except ε α)} {other : Progress (Except ε β)}
    {progress : Progress (Except ε (α × β))} (joins : Progress.Joins one other progress) :
    Joint one.value? other.value? progress.value? := by
  cases joins with
  | ok value other => exact .ok value other
  | first error unfailed => exact .first error _
  | second error unfailed => exact .second error _
  | firstStuck | secondStuck | dropped => exact .none _ _

/-- What two attempts hear side by side is put together from what each of them hears. -/
theorem Hears.of_both {first : Plan I (Except ε α)} {second : Plan I (Except ε β)} {time : Duration}
    {result : Option (Except ε (α × β))}
    (hears : (Plan.both first second).Hears exchanges time result) :
    ∃ own taken value others needed other, first.Hears own taken value ∧
      second.Hears others needed other ∧ Merged own others exchanges ∧ Joint value other result := by
  obtain ⟨progress, comes, rfl⟩ := hears.comes
  obtain ⟨own, one, others, other, alone, beside, merged, joins⟩ := comes.of_both
  obtain ⟨taken, heard⟩ := alone.hears
  obtain ⟨needed, heardToo⟩ := beside.hears
  exact ⟨own, taken, _, others, needed, _, heard, heardToo, merged, joins.joint⟩

end NodeScaler.Plan
