import NodeScaler.Proofs.Plan.Settling

/-!
# Plans that match

Two plans over different surroundings match from a pair of states if both have a value, and values
and final states are related. That may be asked for only if the second plan ends in an admissible
state; no question may lead from a state that is not admissible to one that is. Then it is enough to
look at the end, and matching plans one after the other match.
-/

namespace NodeScaler.Plan

variable {I J : Interface} {σ τ α β γ δ : Type} {left : Handler I σ} {right : Handler J τ}
  {admissible : τ → Prop}

/-- If the second plan ends in an admissible state, then both have a value, and values and final
states are related. -/
def Matches (left : Handler I σ) (right : Handler J τ) (admissible : τ → Prop)
    (related : α → β → σ → τ → Prop) (first : Plan I α) (second : Plan J β) (state : σ)
    (other : τ) : Prop :=
  admissible (second.run right other).state →
    ∃ value result, (first.run left state).value = some value ∧
      (second.run right other).value = some result ∧
      related value result (first.run left state).state (second.run right other).state

/-- No question leads to an admissible state from one that is not. -/
def Backwards (right : Handler J τ) (admissible : τ → Prop) : Prop :=
  ∀ question other, admissible (right question other).2 → admissible other

/-- No plan leads to an admissible state from one that is not. -/
theorem Backwards.run (backwards : Backwards right admissible) (plan : Plan J β) {other : τ}
    (isAdmissible : admissible (plan.run right other).state) : admissible other := by
  induction plan generalizing other with
  | done value => exact isAdmissible
  | ask question next inductionHypothesis =>
    exact backwards question other (inductionHypothesis _ isAdmissible)
  | wait span next inductionHypothesis => exact inductionHypothesis isAdmissible
  | stall => exact isAdmissible

/-- What follows a plan does not make the state admissible in which it ends. -/
theorem Backwards.bind (backwards : Backwards right admissible) {plan : Plan J β}
    (more : β → Plan J δ) {other : τ}
    (isAdmissible : admissible ((plan >>= more).run right other).state) :
    admissible (plan.run right other).state := by
  induction plan generalizing other with
  | done value => exact backwards.run (more value) isAdmissible
  | ask question next inductionHypothesis => exact inductionHypothesis _ isAdmissible
  | wait span next inductionHypothesis => exact inductionHypothesis isAdmissible
  | stall => exact isAdmissible

variable {state : σ} {other : τ}

/-- Plans that have ended match. -/
theorem matches_done {related : α → β → σ → τ → Prop} {value : α} {result : β}
    (isRelated : related value result state other) :
    Matches left right admissible related (.done value) (.done result) state other :=
  fun _ => ⟨value, result, rfl, rfl, isRelated⟩

/-- Plans that match also do so in a weaker sense. -/
theorem Matches.mono {related weaker : α → β → σ → τ → Prop} {first : Plan I α} {second : Plan J β}
    (meet : first.Matches left right admissible related second state other)
    (implies : ∀ value result last final, related value result last final →
      weaker value result last final) :
    first.Matches left right admissible weaker second state other := by
  intro isAdmissible
  obtain ⟨value, result, firstEnds, secondEnds, isRelated⟩ := meet isAdmissible
  exact ⟨value, result, firstEnds, secondEnds, implies _ _ _ _ isRelated⟩

/-- Matching plans one after the other match. -/
theorem Matches.bind (backwards : Backwards right admissible)
    {related : γ → δ → σ → τ → Prop} {first : Plan I α} {second : Plan J β} {next : α → Plan I γ}
    {more : β → Plan J δ}
    (meet : first.Matches left right admissible
      (fun value result => (next value).Matches left right admissible related (more result)) second
      state other) :
    (first >>= next).Matches left right admissible related (second >>= more) state other := by
  intro isAdmissible
  obtain ⟨value, result, firstEnds, secondEnds, rest⟩ := meet (backwards.bind more isAdmissible)
  have firstRun := run_bind next firstEnds
  have secondRun := run_bind more secondEnds
  rw [secondRun] at isAdmissible
  obtain ⟨finalValue, finalResult, valueEnds, resultEnds, isRelated⟩ := rest isAdmissible
  rw [firstRun, secondRun]
  exact ⟨finalValue, finalResult, valueEnds, resultEnds, isRelated⟩

/-- Matching plans whose values are handed on. -/
theorem Matches.map (backwards : Backwards right admissible)
    {related : γ → δ → σ → τ → Prop} {first : Plan I α} {second : Plan J β} {change : α → γ}
    {turn : β → δ}
    (meet : first.Matches left right admissible
      (fun value result => related (change value) (turn result)) second state other) :
    (change <$> first).Matches left right admissible related (turn <$> second) state other := by
  apply Matches.bind backwards
  apply meet.mono
  exact fun value result last final isRelated => matches_done isRelated

/-- Plans that settle on one value each match. -/
theorem Settles.matches {good : σ → Prop} {better : τ → Prop} {value : α} {result : β}
    {first : Plan I α} {second : Plan J β} (settles : first.Settles left good (· = value))
    (settlesToo : second.Settles right better (· = result)) (isGood : good state)
    (isBetter : better other) :
    first.Matches left right admissible
      (fun found gained last final => found = value ∧ gained = result ∧ good last ∧ better final)
      second state other := by
  intro _
  obtain ⟨found, firstEnds, isValue, staysGood⟩ := settles.run isGood
  obtain ⟨gained, secondEnds, isResult, staysBetter⟩ := settlesToo.run isBetter
  exact ⟨found, gained, firstEnds, secondEnds, isValue, isResult, staysGood, staysBetter⟩

/-! ## Attempts -/

/-- How attempts go on after their results: both go on, or both have failed. -/
def GoesOn {ε : Type} (left : Handler I σ) (right : Handler J τ) (admissible : τ → Prop)
    (related : Except ε γ → Except ε δ → σ → τ → Prop) (next : α → Attempt I ε γ)
    (more : β → Attempt J ε δ) : Except ε α → Except ε β → σ → τ → Prop
  | .ok value, .ok result, last, final =>
    (next value).run.Matches left right admissible related (more result).run last final
  | .error error, .error failure, last, final =>
    related (.error error) (.error failure) last final
  | _, _, _, _ => False

/-- Matching attempts one after the other match. -/
theorem Matches.attempt {ε : Type} (backwards : Backwards right admissible)
    {related : Except ε γ → Except ε δ → σ → τ → Prop} {first : Attempt I ε α}
    {second : Attempt J ε β} {next : α → Attempt I ε γ} {more : β → Attempt J ε δ}
    (meet : first.run.Matches left right admissible
      (GoesOn left right admissible related next more) second.run state other) :
    (first >>= next).run.Matches left right admissible related (second >>= more).run state
      other := by
  apply Matches.bind backwards
  apply meet.mono
  intro value result last final goesOn
  cases value with
  | ok value =>
    cases result with
    | ok result => exact goesOn
    | error failure => exact goesOn.elim
  | error error =>
    cases result with
    | ok result => exact goesOn.elim
    | error failure => exact matches_done goesOn

end NodeScaler.Plan
