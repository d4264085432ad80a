import Mathlib.Logic.Relation
import NodeScaler.Proofs.Plan.Harmless

/-!
# Contracts of plans among disturbances

A plan is not alone: between two of its questions the surroundings may change. What a plan
assures from a state holds however they do: one thing at every instant until it ends, and
another of its value and the state in the end. Contracts of plans one after the other compose,
and a plan that is cut off keeps what its contract says about every instant.
-/

namespace NodeScaler

open Relation (ReflTransGen)

/-- A disturbance beside something that it does not touch. -/
def Beside {σ τ : Type} (disturbed : σ → σ → Prop) (before after : τ × σ) : Prop :=
  after.1 = before.1 ∧ disturbed before.2 after.2

/-- Disturbances do not touch what they are beside. -/
theorem beside_unchanged {σ τ : Type} {disturbed : σ → σ → Prop} {beside : τ} {state : σ}
    {last : τ × σ} (changes : ReflTransGen (Beside disturbed) (beside, state) last) :
    ∃ other, last = (beside, other) ∧ ReflTransGen disturbed state other := by
  induction changes with
  | refl => exact ⟨state, rfl, .refl⟩
  | @tail _ last _ change inductionHypothesis =>
    obtain ⟨other, rfl, changes⟩ := inductionHypothesis
    exact ⟨last.2, Prod.ext change.1 rfl, changes.tail change.2⟩

namespace Plan

variable {I J : Interface} {σ τ α β : Type}

/-- From a state, whatever the disturbances, `always` holds until the plan ends, and `ends` in
the end. -/
def Assures (handler : Handler I σ) (disturbed : σ → σ → Prop) (always : σ → Prop)
    (ends : α → σ → Prop) : Plan I α → σ → Prop
  | done value, state => ∀ later, ReflTransGen disturbed state later → always later ∧ ends value later
  | ask question next, state => ∀ later, ReflTransGen disturbed state later → always later ∧
      Assures handler disturbed always ends (next (handler question later).1)
        (handler question later).2
  | wait _ next, state => Assures handler disturbed always ends next state
  | stall, _ => False

namespace Assures

variable {handler : Handler I σ} {disturbed : σ → σ → Prop} {always : σ → Prop}
  {ends : α → σ → Prop} {plan : Plan I α} {state later : σ}

/-- A disturbance does not affect what is assured. -/
theorem disturb (assures : plan.Assures handler disturbed always ends state)
    (changes : ReflTransGen disturbed state later) :
    plan.Assures handler disturbed always ends later := by
  induction plan with
  | done value => exact fun last more => assures last (changes.trans more)
  | ask question next inductionHypothesis => exact fun last more => assures last (changes.trans more)
  | wait span next inductionHypothesis => exact inductionHypothesis assures
  | stall => exact assures

/-- What holds always holds now. -/
theorem now (assures : plan.Assures handler disturbed always ends state) : always state := by
  induction plan with
  | done value => exact (assures state .refl).1
  | ask question next inductionHypothesis => exact (assures state .refl).1
  | wait span next inductionHypothesis => exact inductionHypothesis assures
  | stall => exact assures.elim

/-- A contract implies a weaker one. -/
theorem mono {sometimes : σ → Prop} {outcome : α → σ → Prop}
    (assures : plan.Assures handler disturbed always ends state)
    (alwaysWeaker : ∀ state, always state → sometimes state)
    (endsWeaker : ∀ value state, ends value state → outcome value state) :
    plan.Assures handler disturbed sometimes outcome state := by
  induction plan generalizing state with
  | done value =>
    intro last changes
    obtain ⟨holds, isEnd⟩ := assures last changes
    exact ⟨alwaysWeaker _ holds, endsWeaker _ _ isEnd⟩
  | ask question next inductionHypothesis =>
    intro last changes
    obtain ⟨holds, rest⟩ := assures last changes
    exact ⟨alwaysWeaker _ holds, inductionHypothesis _ rest⟩
  | wait span next inductionHypothesis => exact inductionHypothesis assures
  | stall => exact assures

/-- Plans one after the other: the second one has its contract from where the first one ends. -/
theorem bind {next : α → Plan I β} {finish : β → σ → Prop}
    (assures : plan.Assures handler disturbed always
      (fun value state => (next value).Assures handler disturbed always finish state) state) :
    (plan >>= next).Assures handler disturbed always finish state := by
  induction plan generalizing state with
  | done value => exact (assures state .refl).2
  | ask question rest inductionHypothesis =>
    intro last changes
    obtain ⟨holds, more⟩ := assures last changes
    exact ⟨holds, inductionHypothesis _ more⟩
  | wait span rest inductionHypothesis => exact inductionHypothesis assures
  | stall => exact assures

/-- A plan whose value is handed on. -/
theorem map {change : α → β} {finish : β → σ → Prop}
    (assures : plan.Assures handler disturbed always (fun value => finish (change value)) state) :
    (change <$> plan).Assures handler disturbed always finish state := by
  induction plan generalizing state with
  | done value => exact assures
  | ask question rest inductionHypothesis =>
    intro last changes
    obtain ⟨holds, more⟩ := assures last changes
    exact ⟨holds, inductionHypothesis _ more⟩
  | wait span rest inductionHypothesis => exact inductionHypothesis assures
  | stall => exact assures

/-- A plan that is cut off has kept its contract until then. -/
theorem within {limit : Duration} {finish : Option α → σ → Prop}
    (assures : plan.Assures handler disturbed always (fun value => finish (some value)) state)
    (late : ∀ state, always state → finish none state) :
    (plan.within limit).Assures handler disturbed always finish state := by
  induction plan generalizing state limit with
  | done value => exact assures
  | ask question next inductionHypothesis =>
    intro last changes
    obtain ⟨holds, more⟩ := assures last changes
    exact ⟨holds, inductionHypothesis _ more⟩
  | wait span next inductionHypothesis =>
    have cut : (done none : Plan I (Option α)).Assures handler disturbed always finish state :=
      fun last changes => ⟨(assures.disturb changes).now, late _ (assures.disturb changes).now⟩
    rw [Plan.within]
    split
    · exact inductionHypothesis assures
    · unfold pause
      split <;> exact cut
  | stall => exact assures.elim

/-- A plan beside something that it does not touch. -/
theorem right {left : Handler J τ} {both : τ × σ → Prop} {finish : α → τ × σ → Prop} {beside : τ}
    (assures : plan.Assures handler disturbed (fun state => both (beside, state))
      (fun value state => finish value (beside, state)) state) :
    (plan.right : Plan (J.sum I) α).Assures (left.sum handler)
      (Beside disturbed) both finish (beside, state) := by
  induction plan generalizing state with
  | done value =>
    intro last changes
    obtain ⟨other, rfl, more⟩ := beside_unchanged changes
    exact assures other more
  | ask question next inductionHypothesis =>
    intro last changes
    obtain ⟨other, rfl, undisturbed⟩ := beside_unchanged changes
    obtain ⟨holds, more⟩ := assures other undisturbed
    exact ⟨holds, inductionHypothesis _ more⟩
  | wait span next inductionHypothesis => exact inductionHypothesis assures
  | stall => exact assures

/-- An attempt after another: a failure of the first one is the end. -/
theorem attempt {ε : Type} {plan : Plan I (Except ε α)} {next : α → Attempt I ε β}
    {finish : Except ε β → σ → Prop}
    (assures : plan.Assures handler disturbed always
      (fun
        | .ok value => (next value).run.Assures handler disturbed always finish
        | .error error => finish (.error error)) state) :
    (plan >>= ExceptT.bindCont next).Assures handler disturbed always finish state := by
  induction plan generalizing state with
  | done result =>
    cases result with
    | ok value => exact (assures state .refl).2
    | error error => exact assures
  | ask question rest inductionHypothesis =>
    intro last changes
    obtain ⟨holds, more⟩ := assures last changes
    exact ⟨holds, inductionHypothesis _ more⟩
  | wait span rest inductionHypothesis => exact inductionHypothesis assures
  | stall => exact assures

end Assures

/-- Plans that only read keep what does not depend on what else happens. -/
theorem Harmless.assures {handler : Handler I σ}
    {disturbed : σ → σ → Prop} {harmless : I.Question → Prop} {kind : α → Prop} {holds : σ → Prop}
    (changes : ∀ question state, harmless question → (handler question state).2 = state)
    (stable : ∀ state later, holds state → ReflTransGen disturbed state later → holds later)
    {plan : Plan I α} (safe : plan.Harmless harmless kind) {state : σ} (now : holds state) :
    plan.Assures handler disturbed holds (fun value state => kind value ∧ holds state) state := by
  induction plan generalizing state with
  | done value => exact fun last more => ⟨stable _ _ now more, safe, stable _ _ now more⟩
  | ask question next inductionHypothesis =>
    intro last more
    refine ⟨stable _ _ now more, inductionHypothesis _ (safe.2 _) ?_⟩
    rw [changes question last safe.1]
    exact stable _ _ now more
  | wait span next inductionHypothesis => exact inductionHypothesis safe now
  | stall => exact safe.elim

end Plan

end NodeScaler
