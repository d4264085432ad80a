import NodeScaler.Proofs.Plan.Transcript

/-!
# Plans that do no harm

A plan is harmless if it asks only questions of a certain kind, whatever it is told, and ends
with a value of a certain kind. Harmless plans can be put one after the other or side by side.
-/

namespace NodeScaler.Plan

variable {I : Interface} {σ α β : Type} {harmless : I.Question → Prop} {kind : α → Prop}
  {later : β → Prop}

/-- The plan asks only what does no harm, and ends with a value of a certain kind. -/
def Harmless (harmless : I.Question → Prop) (kind : α → Prop) : Plan I α → Prop
  | done value => kind value
  | ask question next => harmless question ∧ ∀ answer, (next answer).Harmless harmless kind
  | wait _ next => next.Harmless harmless kind
  | stall => False

/-- A value of a certain kind is also of a wider one. -/
theorem Harmless.mono {wider : α → Prop} {plan : Plan I α} (safe : plan.Harmless harmless kind)
    (implies : ∀ value, kind value → wider value) : plan.Harmless harmless wider := by
  induction plan with
  | done value => exact implies value safe
  | ask question next inductionHypothesis =>
    exact ⟨safe.1, fun answer => inductionHypothesis answer (safe.2 answer)⟩
  | wait span next inductionHypothesis => exact inductionHypothesis safe
  | stall => exact safe.elim

/-- Harmless plans one after the other are harmless. -/
theorem Harmless.bind {plan : Plan I α} {next : α → Plan I β} (safe : plan.Harmless harmless kind)
    (nextSafe : ∀ value, kind value → (next value).Harmless harmless later) :
    (plan >>= next).Harmless harmless later := by
  induction plan with
  | done value => exact nextSafe value safe
  | ask question rest inductionHypothesis =>
    exact ⟨safe.1, fun answer => inductionHypothesis answer (safe.2 answer)⟩
  | wait span rest inductionHypothesis => exact inductionHypothesis safe
  | stall => exact safe.elim

/-- Taking the time does not make a plan ask more. -/
theorem Harmless.timed {plan : Plan I α} {before : Duration}
    (safe : plan.Harmless harmless fun _ => True) :
    (plan.timed before).Harmless harmless fun _ => True := by
  induction plan generalizing before with
  | done value => trivial
  | ask question next inductionHypothesis =>
    exact ⟨safe.1, fun answer => inductionHypothesis answer (safe.2 answer)⟩
  | wait span next inductionHypothesis => exact inductionHypothesis safe
  | stall => exact safe.elim

/-- A pause asks nothing. -/
theorem harmless_pause (span : Duration) :
    (pause span : Plan I Unit).Harmless harmless fun _ => True := by
  unfold pause
  split <;> trivial

/-- A plan that does no harm does none as the right part of a larger interface. -/
theorem Harmless.right {J : Interface} {plan : Plan I α} (safe : plan.Harmless harmless kind) :
    (plan.right : Plan (J.sum I) α).Harmless (I := J.sum I) (Sum.elim (fun _ => True) harmless)
      kind := by
  induction plan with
  | done value => exact safe
  | ask question next inductionHypothesis =>
    exact ⟨safe.1, fun answer => inductionHypothesis answer (safe.2 answer)⟩
  | wait span next inductionHypothesis => exact inductionHypothesis safe
  | stall => exact safe.elim

/-! ## Attempts -/

section

variable {ε ε' : Type} {allowed : ε → Prop}

/-- The result is a failure only if failures like it are allowed. -/
def OnlyFails (allowed : ε → Prop) : Except ε α → Prop
  | .ok _ => True
  | .error error => allowed error

/-- Harmless attempts one after the other are harmless. -/
theorem Harmless.attempt {plan : Plan I (Except ε α)} {next : α → Attempt I ε β}
    (safe : plan.Harmless harmless (OnlyFails allowed))
    (nextSafe : ∀ value, (next value).run.Harmless harmless (OnlyFails allowed)) :
    (plan >>= ExceptT.bindCont next).Harmless harmless (OnlyFails allowed) := by
  apply safe.bind
  intro result fails
  cases result with
  | ok value => exact nextSafe value
  | error error => exact fails

/-- Seeing failures as failures of another kind asks nothing. -/
theorem Harmless.mapError {attempt : Attempt I ε α} {change : ε → ε'} {seen : ε' → Prop}
    (safe : attempt.run.Harmless harmless (OnlyFails allowed))
    (implies : ∀ error, allowed error → seen (change error)) :
    (attempt.mapError change).run.Harmless harmless (OnlyFails seen) := by
  apply Harmless.bind safe
  intro result fails
  cases result with
  | ok value => trivial
  | error error => exact implies error fails

/-- One harmless attempt for each entry of a list. -/
theorem Harmless.mapM {read : α → Attempt I ε β} {list : List α}
    (safe : ∀ entry ∈ list, (read entry).run.Harmless harmless (OnlyFails allowed)) :
    (list.mapM read).run.Harmless harmless (OnlyFails allowed) := by
  induction list with
  | nil => trivial
  | cons first rest inductionHypothesis =>
    rw [List.mapM_cons]
    apply Harmless.attempt (safe first List.mem_cons_self)
    intro value
    apply Harmless.attempt
      (inductionHypothesis fun entry isIn => safe entry (List.mem_cons_of_mem _ isIn))
    exact fun values => trivial

/-- While one attempt waits the other asks only what does no harm, and what is left of it is
harmless again. -/
theorem Harmless.meanwhile {γ : Type} {resume : Plan I (Except ε β) → Plan I (Except ε γ)}
    (resumes : ∀ rest, rest.Harmless harmless (OnlyFails allowed) →
      (resume rest).Harmless harmless (OnlyFails allowed))
    {span : Duration} {second : Plan I (Except ε β)}
    (safe : second.Harmless harmless (OnlyFails allowed)) :
    (Plan.meanwhile resume span second).Harmless harmless (OnlyFails allowed) := by
  induction second generalizing span with
  | done result =>
    cases result with
    | error error => exact safe
    | ok value => exact resumes _ trivial
  | ask question next inductionHypothesis =>
    exact ⟨safe.1, fun answer => inductionHypothesis answer (safe.2 answer)⟩
  | wait other next inductionHypothesis =>
    rw [Plan.meanwhile]
    split
    · exact inductionHypothesis safe
    · split
      · exact resumes _ safe
      · exact resumes _ safe
  | stall => exact safe.elim

/-- Harmless attempts side by side are harmless. -/
theorem Harmless.both {first : Plan I (Except ε α)} {second : Plan I (Except ε β)}
    (firstSafe : first.Harmless harmless (OnlyFails allowed))
    (secondSafe : second.Harmless harmless (OnlyFails allowed)) :
    (Plan.both first second).Harmless harmless (OnlyFails allowed) := by
  induction first generalizing second with
  | done result =>
    cases result with
    | error error => exact firstSafe
    | ok value =>
      apply secondSafe.bind
      intro result fails
      cases result with
      | ok other => trivial
      | error error => exact fails
  | ask question next inductionHypothesis =>
    exact ⟨firstSafe.1, fun answer => inductionHypothesis answer (firstSafe.2 answer) secondSafe⟩
  | wait span next inductionHypothesis =>
    rw [Plan.both]
    exact secondSafe.meanwhile fun rest safe => inductionHypothesis firstSafe safe
  | stall => exact firstSafe.elim

end

/-! ## Transcripts -/

/-- Whatever a harmless plan is told, it asks only what does no harm, and has a value. -/
theorem Harmless.transcript {plan : Plan I α} (safe : plan.Harmless harmless kind)
    (handler : Handler I σ) (state : σ) :
    (∀ exchange ∈ (plan.transcript handler state).exchanges, harmless exchange.question) ∧
      ∃ value, (plan.transcript handler state).value = some value ∧ kind value := by
  induction plan generalizing state with
  | done value => exact ⟨fun _ isIn => absurd isIn List.not_mem_nil, value, rfl, safe⟩
  | ask question next inductionHypothesis =>
    obtain ⟨asked, ends⟩ := inductionHypothesis _ (safe.2 (handler question state).1)
      (handler question state).2
    refine ⟨fun exchange isIn => ?_, ends⟩
    rcases List.mem_cons.1 isIn with rfl | isLater
    · exact safe.1
    · exact asked exchange isLater
  | wait span next inductionHypothesis => exact inductionHypothesis safe state
  | stall => exact safe.elim

end NodeScaler.Plan
