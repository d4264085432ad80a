import NodeScaler.Plan.Run

/-!
# Plans that settle on a value

A plan settles on a kind of value if the surroundings stay good through all its questions and it
ends with such a value, however often it is interrupted by others that keep the surroundings good.
Plans that settle may run side by side. What a plan yields when it runs alone is its value, a
property of the state in which it leaves its surroundings, and a bound for the time that it takes.
-/

namespace NodeScaler.Plan

variable {I : Interface} {σ α β : Type} {handler : Handler I σ} {good : σ → Prop}
  {kind : α → Prop} {later : β → Prop}

/-- In good surroundings the plan keeps them good and ends with a value of a certain kind. -/
inductive Settles (handler : Handler I σ) (good : σ → Prop) (kind : α → Prop) :
    Plan I α → Prop where
  /-- It has ended. -/
  | done {value : α} (isKind : kind value) : Settles handler good kind (.done value)
  /-- It asks, and whatever it is told in good surroundings, they stay good and it settles. -/
  | ask {question : I.Question} {next : I.Answer question → Plan I α}
      (stays : ∀ state, good state → good (handler question state).2)
      (settles : ∀ state, good state →
        Settles handler good kind (next (handler question state).1)) :
      Settles handler good kind (.ask question next)
  /-- It waits, and settles. -/
  | wait {span : Duration} {next : Plan I α} (settles : Settles handler good kind next) :
      Settles handler good kind (.wait span next)

/-- Plans one after the other settle. -/
theorem Settles.bind {plan : Plan I α} {next : α → Plan I β}
    (settles : plan.Settles handler good kind)
    (nextSettles : ∀ value, kind value → (next value).Settles handler good later) :
    (plan >>= next).Settles handler good later := by
  induction settles with
  | done isKind => exact nextSettles _ isKind
  | ask stays _ inductionHypothesis => exact .ask stays inductionHypothesis
  | wait _ inductionHypothesis => exact .wait inductionHypothesis

/-- A pause settles. -/
theorem settles_pause (span : Duration) :
    (pause span : Plan I Unit).Settles handler good fun _ => True := by
  unfold pause
  split
  · exact .done trivial
  · exact .wait (.done trivial)

/-- Run in good surroundings, a plan that settles has its value and leaves them good. -/
theorem Settles.run {plan : Plan I α} (settles : plan.Settles handler good kind) {state : σ}
    (isGood : good state) :
    ∃ value, (plan.run handler state).value = some value ∧ kind value ∧
      good (plan.run handler state).state := by
  induction settles generalizing state with
  | done isKind => exact ⟨_, rfl, isKind, isGood⟩
  | ask stays _ inductionHypothesis => exact inductionHypothesis state isGood (stays state isGood)
  | wait _ inductionHypothesis => exact inductionHypothesis isGood

/-! ## Attempts -/

section

variable {ε ε' : Type} {last : Except ε β → Prop}

/-- An attempt after one that settles on some success. -/
theorem Settles.attemptSome {attempt : Attempt I ε α} {next : α → Attempt I ε β} {fits : α → Prop}
    (settles : attempt.run.Settles handler good fun result =>
      ∃ value, result = .ok value ∧ fits value)
    (nextSettles : ∀ value, fits value → (next value).run.Settles handler good last) :
    (attempt >>= next).run.Settles handler good last := by
  apply Settles.bind settles
  rintro result ⟨value, rfl, isFit⟩
  exact nextSettles value isFit

/-- An attempt after one that settles on one success. -/
theorem Settles.attempt {attempt : Attempt I ε α} {next : α → Attempt I ε β} {value : α}
    (settles : attempt.run.Settles handler good (· = .ok value))
    (nextSettles : (next value).run.Settles handler good last) :
    (attempt >>= next).run.Settles handler good last := by
  apply Settles.bind settles
  rintro result rfl
  exact nextSettles

/-- How failures are seen does not matter for a success. -/
theorem Settles.mapError {attempt : Attempt I ε α} {value : α}
    (settles : attempt.run.Settles handler good (· = .ok value)) (change : ε → ε') :
    (attempt.mapError change).run.Settles handler good (· = .ok value) := by
  apply Settles.bind settles
  rintro result rfl
  exact .done rfl

/-- One attempt for each entry of a list settles on the list of the values. -/
theorem Settles.mapM {read : α → Attempt I ε β} {value : α → β} {list : List α}
    (settles : ∀ entry ∈ list, (read entry).run.Settles handler good (· = .ok (value entry))) :
    (list.mapM read).run.Settles handler good (· = .ok (list.map value)) := by
  induction list with
  | nil => exact .done rfl
  | cons first rest inductionHypothesis =>
    rw [List.mapM_cons]
    apply Settles.attempt (settles first List.mem_cons_self)
    apply Settles.attempt
      (inductionHypothesis fun entry isIn => settles entry (List.mem_cons_of_mem _ isIn))
    exact .done rfl

/-- While one attempt waits the other may go on, and what is left of it settles again. -/
theorem Settles.meanwhile {γ : Type} {resume : Plan I (Except ε β) → Plan I (Except ε γ)}
    {value : β} {finish : Except ε γ → Prop}
    (resumes : ∀ rest, rest.Settles handler good (· = .ok value) →
      (resume rest).Settles handler good finish)
    {span : Duration} {second : Plan I (Except ε β)}
    (settles : second.Settles handler good (· = .ok value)) :
    (Plan.meanwhile resume span second).Settles handler good finish := by
  induction settles generalizing span with
  | done isValue =>
    subst isValue
    exact .wait (resumes _ (.done rfl))
  | ask stays _ inductionHypothesis =>
    exact .ask stays fun state isGood => inductionHypothesis state isGood
  | wait settles inductionHypothesis =>
    rw [Plan.meanwhile]
    split
    · exact .wait inductionHypothesis
    · split
      · exact .wait (resumes _ settles)
      · exact .wait (resumes _ (.wait settles))

/-- Attempts side by side settle on both values. -/
theorem Settles.both {first : Plan I (Except ε α)} {second : Plan I (Except ε β)} {value : α}
    {other : β} (firstSettles : first.Settles handler good (· = .ok value))
    (secondSettles : second.Settles handler good (· = .ok other)) :
    (Plan.both first second).Settles handler good (· = .ok (value, other)) := by
  induction firstSettles generalizing second with
  | done isValue =>
    subst isValue
    apply Settles.bind secondSettles
    rintro result rfl
    exact .done rfl
  | ask stays _ inductionHypothesis =>
    exact .ask stays fun state isGood => inductionHypothesis state isGood secondSettles
  | wait _ inductionHypothesis =>
    rw [Plan.both]
    exact Settles.meanwhile (fun rest settles => inductionHypothesis settles) secondSettles

end

/-! ## Time -/

/-- A plan after another takes its time after it. -/
theorem run_bind {plan : Plan I α} {state : σ} {value : α} (next : α → Plan I β)
    (ends : (plan.run handler state).value = some value) :
    (plan >>= next).run handler state =
      let first := plan.run handler state
      let second := (next value).run handler first.state
      { second with elapsed := first.elapsed.plus second.elapsed } := by
  induction plan generalizing state with
  | done found =>
    cases ends
    simp [run, Duration.plus, Duration.zero]
  | ask question rest inductionHypothesis => exact inductionHypothesis _ ends
  | wait span rest inductionHypothesis =>
    have behind := inductionHypothesis ends
    simp only [wait_bind, run, behind, Duration.plus, Nat.add_assoc]
  | stall => cases ends

/-- Run alone, the plan has a value, which together with the final state meets a condition, and it
takes no longer than a limit. -/
def Yields (handler : Handler I σ) (ends : α → σ → Prop) (limit : Nat) (plan : Plan I α)
    (state : σ) : Prop :=
  ∃ value, (plan.run handler state).value = some value ∧
    ends value (plan.run handler state).state ∧
    (plan.run handler state).elapsed.nanoseconds ≤ limit

variable {ends : α → σ → Prop} {finish : β → σ → Prop} {state : σ} {limit other : Nat}

/-- Run in good surroundings, a plan that settles yields its value in some time. -/
theorem Settles.yields {plan : Plan I α} (settles : plan.Settles handler good kind)
    (isGood : good state) :
    ∃ limit, plan.Yields handler (fun value last => kind value ∧ good last) limit state := by
  obtain ⟨value, isValue, isKind, stays⟩ := settles.run isGood
  exact ⟨_, value, isValue, ⟨isKind, stays⟩, Nat.le_refl _⟩

/-- A plan that is done takes no time. -/
theorem yields_done {value : α} (isEnd : ends value state) :
    (done value : Plan I α).Yields handler ends 0 state :=
  ⟨value, rfl, isEnd, Nat.le_refl _⟩

/-- A pause takes no longer than it should. -/
theorem yields_pause (span : Duration) :
    (pause span : Plan I Unit).Yields handler (fun _ last => last = state) span.nanoseconds
      state := by
  unfold pause
  split
  · exact ⟨(), rfl, rfl, Nat.zero_le _⟩
  · exact ⟨(), rfl, rfl, Nat.min_le_left _ _⟩

/-- A weaker condition may be met, and more time may be allowed. -/
theorem Yields.mono {weaker : α → σ → Prop} {plan : Plan I α}
    (yields : plan.Yields handler ends limit state)
    (implies : ∀ value last, ends value last → weaker value last) (more : limit ≤ other) :
    plan.Yields handler weaker other state := by
  obtain ⟨value, isValue, isEnd, time⟩ := yields
  exact ⟨value, isValue, implies _ _ isEnd, Nat.le_trans time more⟩

/-- Plans one after the other take their times together. -/
theorem Yields.bind {plan : Plan I α} {next : α → Plan I β}
    (yields : plan.Yields handler ends limit state)
    (nextYields : ∀ value last, ends value last → (next value).Yields handler finish other last) :
    (plan >>= next).Yields handler finish (limit + other) state := by
  obtain ⟨first, isFirst, isEnd, time⟩ := yields
  obtain ⟨second, isSecond, isFinish, timeNext⟩ := nextYields _ _ isEnd
  have whole := run_bind next isFirst
  rw [Yields, whole]
  exact ⟨second, isSecond, isFinish, Nat.add_le_add time timeNext⟩

/-- An attempt after another: a failure of the first one is the end. -/
theorem Yields.attempt {ε : Type} {attempt : Attempt I ε α} {next : α → Attempt I ε β}
    {ends : Except ε α → σ → Prop} {last : Except ε β → σ → Prop}
    (yields : attempt.run.Yields handler ends limit state)
    (goesOn : ∀ value state, ends (.ok value) state →
      (next value).run.Yields handler last other state)
    (fails : ∀ error state, ends (.error error) state → last (.error error) state) :
    (attempt >>= next).run.Yields handler last (limit + other) state := by
  apply Yields.bind yields
  intro result state isEnd
  cases result with
  | ok value => exact goesOn value state isEnd
  | error error => exact ⟨_, rfl, fails error state isEnd, Nat.zero_le _⟩

/-- An attempt after one that yields a success. -/
theorem Yields.attemptOk {ε : Type} {attempt : Attempt I ε α} {next : α → Attempt I ε β} {value : α}
    {last : Except ε β → σ → Prop}
    (yields : attempt.run.Yields handler (fun result state => result = .ok value ∧ good state) limit
      state)
    (goesOn : ∀ state, good state → (next value).run.Yields handler last other state) :
    (attempt >>= next).run.Yields handler last (limit + other) state := by
  apply Yields.attempt yields
  · rintro found state ⟨isValue, isGood⟩
    cases isValue
    exact goesOn state isGood
  · rintro error state ⟨isValue, -⟩
    cases isValue

end NodeScaler.Plan
